import GuestLint.Proofs.Path.Lexical

/-!
# What a path says

Read from left to right, a path says whether it starts at a root, how far it climbs from the place
where it is read, and through which names it leads from there. Texts that say the same are
spellings of one path, and cleaning picks the shortest of them.

* `Meaning`, `meaning`: what is read off a path, segment by segment.
* `Meaning.stack_enter`: a segment adds to the meaning what it adds to the stack of a cleaned path.
* `meaning_eq_iff`: paths say the same exactly when both or none are rooted and the same segments
  are left of them.
* `weight_reduce_le`, `length_clean_le`: reducing adds no characters.
* `clean_shortest_spelling`: the shortest spelling says the same, and is the same for all spellings.
-/
namespace GuestLint.Path

/-! ## Meanings -/

/-- What a path says. There is nothing above a root, so a rooted path does not climb. -/
@[ext]
structure Meaning where
  rooted : Bool
  climbs : Nat
  names : List String
  absorbed : rooted = true → climbs = 0
  named : ∀ name ∈ names, IsName name
  deriving DecidableEq

namespace Meaning

/-- Nothing is read yet. -/
def start (rooted : Bool) : Meaning where
  rooted := rooted
  climbs := 0
  names := []
  absorbed _ := rfl
  named := by simp

/-- One step up: back over the last name. Where there is none, a root absorbs the step, and without
a root the path climbs once more. -/
def up (m : Meaning) : Meaning :=
  if m.names = [] then
    if hroot : m.rooted = true then m
    else { m with climbs := m.climbs + 1, absorbed := fun h => absurd h hroot }
  else
    { m with
      names := m.names.dropLast
      named := fun name h => m.named name ((List.dropLast_sublist m.names).mem h) }

/-- One segment more. -/
def enter (m : Meaning) (part : String) : Meaning :=
  if hskip : part = "" ∨ part = "." then m
  else if hup : part = ".." then m.up
  else
    { m with
      names := m.names ++ [part]
      named := by
        intro name h
        rcases List.mem_append.mp h with h | h
        · exact m.named name h
        · obtain rfl := List.mem_singleton.mp h
          exact (isName_or name).resolve_left hskip |>.resolve_left hup }

end Meaning

/-- What a path says. -/
def meaning (path : String) : Meaning :=
  (segments path).foldl Meaning.enter (.start (isAbsolute path))

/-! ## Meanings as stacks -/

theorem step_up_replicate (n : Nat) :
    step false (List.replicate n "..") ".." = List.replicate (n + 1) ".." := by
  cases n with
  | zero => exact step_up_nil
  | succ n => exact step_up_up

namespace Meaning

/-- The segments that a meaning is written with, the last one on top. -/
def stack (m : Meaning) : List String :=
  m.names.reverse ++ List.replicate m.climbs ".."

theorem rooted_up (m : Meaning) : m.up.rooted = m.rooted := by
  unfold up
  split
  · split <;> rfl
  · rfl

theorem stack_up (m : Meaning) : m.up.stack = step m.rooted m.stack ".." := by
  unfold up
  split
  · rename_i hnames
    split
    · -- a root absorbs the step
      rename_i hroot
      have hstack : m.stack = [] := by simp [stack, hnames, m.absorbed hroot]
      rw [hstack, hroot]
      rfl
    · rename_i hroot
      simp only [stack, hnames, List.reverse_nil, List.nil_append, Bool.not_eq_true _ ▸ hroot]
      exact (step_up_replicate m.climbs).symm
  · rename_i hnames
    obtain ⟨front, last, hlast⟩ := (List.eq_nil_or_concat m.names).resolve_left hnames
    rw [List.concat_eq_append] at hlast
    have hname : IsName last := m.named last (by simp [hlast])
    have hstack : m.stack = last :: (front.reverse ++ List.replicate m.climbs "..") := by
      simp [stack, hlast]
    rw [hstack, step_up_name hname]
    simp [stack, hlast]

theorem rooted_enter (m : Meaning) (part : String) : (m.enter part).rooted = m.rooted := by
  unfold enter
  split
  · rfl
  · split
    · exact m.rooted_up
    · rfl

/-- A segment adds to a meaning what it adds to the stack of a cleaned path. -/
theorem stack_enter (m : Meaning) (part : String) :
    (m.enter part).stack = step m.rooted m.stack part := by
  unfold enter
  split
  · rename_i hskip
    exact (step_skip hskip).symm
  · rename_i hskip
    split
    · rename_i hup
      rw [hup]
      exact m.stack_up
    · rename_i hup
      rw [step_name ((isName_or part).resolve_left hskip |>.resolve_left hup)]
      simp [stack]

theorem foldl_enter (m : Meaning) (parts : List String) :
    (parts.foldl enter m).rooted = m.rooted ∧
      (parts.foldl enter m).stack = parts.foldl (step m.rooted) m.stack := by
  induction parts generalizing m with
  | nil => exact ⟨rfl, rfl⟩
  | cons part parts ih =>
    obtain ⟨hroot, hstack⟩ := ih (m.enter part)
    rw [rooted_enter] at hroot hstack
    rw [stack_enter] at hstack
    exact ⟨hroot, hstack⟩

theorem count_stack (m : Meaning) : m.stack.count ".." = m.climbs := by
  have hnames : m.names.count ".." = 0 :=
    List.count_eq_zero.mpr fun h => (m.named ".." h).ne_up rfl
  simp [stack, hnames]

/-- A meaning is known from its root and its stack. -/
theorem eq_of_stack {m m' : Meaning} (hroot : m.rooted = m'.rooted) (hstack : m.stack = m'.stack) :
    m = m' := by
  have hclimbs : m.climbs = m'.climbs := by rw [← count_stack, hstack, count_stack]
  have hnames : m.names.reverse ++ List.replicate m.climbs ".." =
      m'.names.reverse ++ List.replicate m.climbs ".." := by
    rw [← stack, hstack, stack, hclimbs]
  exact Meaning.ext hroot hclimbs (List.reverse_inj.mp (List.append_cancel_right hnames))

end Meaning

theorem rooted_meaning (path : String) : (meaning path).rooted = isAbsolute path :=
  (Meaning.foldl_enter _ _).1

theorem stack_meaning (path : String) : (meaning path).stack = (cleanParts path).reverse := by
  rw [cleanParts, reduce, List.reverse_reverse]
  exact (Meaning.foldl_enter (.start (isAbsolute path)) (segments path)).2

/-- What is left of a path are its climbs and its names. -/
theorem cleanParts_eq_meaning (path : String) :
    cleanParts path = List.replicate (meaning path).climbs ".." ++ (meaning path).names := by
  rw [← List.reverse_reverse (cleanParts path), ← stack_meaning, Meaning.stack]
  simp

/-- Paths say the same exactly when both or none are rooted and the same segments are left of
them. -/
theorem meaning_eq_iff (p q : String) :
    meaning p = meaning q ↔ isAbsolute p = isAbsolute q ∧ cleanParts p = cleanParts q := by
  rw [← rooted_meaning p, ← rooted_meaning q]
  constructor
  · intro h
    refine ⟨congrArg _ h, List.reverse_inj.mp ?_⟩
    rw [← stack_meaning, h, stack_meaning]
  · rintro ⟨hroot, hparts⟩
    exact Meaning.eq_of_stack hroot (by rw [stack_meaning, hparts, stack_meaning])

/-! ## How long a path is -/

/-- How many characters segments take, each with a separator. -/
def weight : List String → Nat
  | [] => 0
  | part :: parts => part.length + 1 + weight parts

section
variable {rooted : Bool}

theorem weight_cons (part : String) (parts : List String) :
    weight (part :: parts) = part.length + 1 + weight parts := rfl

theorem weight_append (parts more : List String) :
    weight (parts ++ more) = weight parts + weight more := by
  induction parts with
  | nil => exact (Nat.zero_add _).symm
  | cons part parts ih =>
    rw [List.cons_append, weight_cons, weight_cons, ih]
    omega

theorem weight_reverse (parts : List String) : weight parts.reverse = weight parts := by
  induction parts with
  | nil => rfl
  | cons part parts ih =>
    rw [List.reverse_cons, weight_append, ih, weight_cons part parts]
    exact Nat.add_comm _ _

theorem weight_step_le (stack : List String) (part : String) :
    weight (step rooted stack part) ≤ part.length + 1 + weight stack := by
  rcases isName_or part with hskip | rfl | hname
  · rw [step_skip hskip]
    exact Nat.le_add_left _ _
  · have hup : weight [".."] = "..".length + 1 + weight [] := weight_cons _ _
    cases stack with
    | nil =>
      rw [step_up_nil]
      cases rooted with
      | true => exact Nat.zero_le _
      | false => exact Nat.le_of_eq hup
    | cons top below =>
      by_cases htop : top = ".."
      · subst htop
        rw [step_up_up]
        exact Nat.le_of_eq (weight_cons _ _)
      · rw [step_up_cons htop, weight_cons]
        omega
  · rw [step_name hname]
    exact Nat.le_of_eq (weight_cons _ _)

theorem weight_foldl_le (stack parts : List String) :
    weight (parts.foldl (step rooted) stack) ≤ weight parts + weight stack := by
  induction parts generalizing stack with
  | nil => exact Nat.le_add_left _ _
  | cons part parts ih =>
    have hrest := ih (step rooted stack part)
    have hpart := @weight_step_le rooted stack part
    rw [List.foldl_cons, weight_cons]
    omega

/-- Reducing adds no characters. -/
theorem weight_reduce_le (rooted : Bool) (parts : List String) :
    weight (reduce rooted parts) ≤ weight parts := by
  rw [reduce, weight_reverse]
  exact weight_foldl_le [] parts

theorem length_unsegment (parts : List String) : (unsegment parts).length = weight parts - 1 := by
  induction parts with
  | nil => rfl
  | cons first rest ih =>
    cases rest with
    | nil => simp [unsegment, weight]
    | cons second rest =>
      have hlength : (unsegment (first :: second :: rest)).length =
          first.length + "/".length + (unsegment (second :: rest)).length := by
        simp [unsegment, String.intercalate_cons_cons]
      rw [hlength, ih, weight_cons first, weight_cons second]
      show first.length + 1 + _ = _
      omega

end

theorem weight_segments (path : String) : weight (segments path) = path.length + 1 := by
  have hlength := length_unsegment (segments path)
  have hsome : weight (segments path) ≠ 0 := by
    cases hparts : segments path with
    | nil => exact absurd hparts (segments_ne_nil path)
    | cons first rest =>
      rw [weight_cons]
      omega
  rw [unsegment_segments] at hlength
  omega

theorem eq_append_of_isAbsolute {path : String} (h : isAbsolute path = true) :
    ∃ rest, path = "/" ++ rest := by
  unfold isAbsolute at h
  cases htext : path.toList with
  | nil =>
    rw [htext] at h
    cases h
  | cons c rest =>
    rw [htext, List.head?_cons, beq_iff_eq, Option.some.injEq] at h
    refine ⟨String.ofList rest, String.toList_inj.mp ?_⟩
    rw [String.toList_append, String.toList_ofList, htext, h]
    simp

/-- What is left of a path is no longer than the path, and the separator at a root is not counted
in it. -/
theorem weight_cleanParts_le (path : String) :
    weight (cleanParts path) ≤ path.length + if isAbsolute path then 0 else 1 := by
  cases hroot : isAbsolute path with
  | true =>
    obtain ⟨rest, rfl⟩ := eq_append_of_isAbsolute hroot
    have hparts : cleanParts ("/" ++ rest) = reduce true (segments rest) := by
      rw [cleanParts, hroot, segments_rooted, reduce, List.foldl_cons, step_skip (.inl rfl), reduce]
    have hweight := weight_reduce_le true (segments rest)
    have hlength : ("/" ++ rest).length = 1 + rest.length := String.length_append "/" rest
    rw [hparts, hlength]
    rw [weight_segments] at hweight
    simp only [if_true]
    omega
  | false =>
    have hweight := weight_reduce_le (isAbsolute path) (segments path)
    rwa [weight_segments] at hweight

/-- Cleaning makes no path longer, but for the empty one. -/
theorem length_clean_le {path : String} (hne : path ≠ "") : (clean path).length ≤ path.length := by
  have hsome : path.length ≠ 0 := fun h => hne (String.length_eq_zero_iff.mp h)
  have hweight := weight_cleanParts_le path
  rw [clean_eq]
  cases hroot : isAbsolute path with
  | true =>
    have hlength : (render true (cleanParts path)).length =
        1 + (unsegment (cleanParts path)).length := String.length_append "/" _
    rw [hroot] at hweight
    simp only [if_true] at hweight
    rw [hlength, length_unsegment]
    omega
  | false =>
    by_cases hparts : cleanParts path = []
    · rw [hparts]
      exact Nat.one_le_iff_ne_zero.mpr hsome
    · rw [hroot] at hweight
      simp only [Bool.false_eq_true, if_false] at hweight
      rw [render_unrooted hparts, length_unsegment]
      omega

/-- **Shortest spellings.** Cleaning changes the spelling of a path and not what it says. All
spellings of a path are cleaned to one text, which is not empty, which cleaning leaves as it is, and
which no other spelling undercuts. -/
theorem clean_shortest_spelling (p q : String) :
    meaning (clean p) = meaning p ∧
    (clean p = clean q ↔ meaning p = meaning q) ∧
    clean (clean p) = clean p ∧
    clean p ≠ "" ∧ (q ≠ "" → meaning q = meaning p → (clean p).length ≤ q.length) := by
  have hsame : ∀ path text, clean path = clean text ↔ meaning path = meaning text :=
    fun path text => (clean_inj path text).trans (meaning_eq_iff path text).symm
  refine ⟨(hsame _ _).mp (clean_clean p), hsame p q, clean_clean p, clean_ne_empty p, ?_⟩
  intro hne hmeaning
  rw [← (hsame q p).mpr hmeaning]
  exact length_clean_le hne

example : (meaning "a/../../b//./c/..").climbs = 1 ∧ (meaning "a/../../b//./c/..").names = ["b"] ∧
    clean "a/../../b//./c/.." = "../b" ∧ meaning "/../a" = meaning "//a/." := by decide +kernel

end GuestLint.Path
