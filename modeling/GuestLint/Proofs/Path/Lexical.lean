import GuestLint.Path.Lexical

/-!
# The algebra of cleaned paths

A path is a list of segments behind an optional root. Cleaning reduces the segments to names behind
leading `..`, and everything that is made of cleaned paths is told in terms of these lists.

* `segments_unsegment`, `segments_append`: texts and lists of segments.
* `IsStack`: the shape of reduced segments, which every step keeps; reducing them again changes
  nothing.
* `foldl_segments_render`, `clean_clean`: a written path reads back, so it is its own shortest
  spelling.
* `clean_inj`: two paths have the same shortest spelling exactly when they are rooted alike and
  reduce to the same segments.
* `join_eq`, `join_pair`: joining reduces one list behind the other.
* `relative_eq`: a relative path climbs from what two paths share, and descends from there.
-/
namespace GuestLint.Path

/-! ## Segments and texts -/

/-- A segment without a separator in it. -/
def IsFlat (part : String) : Prop := '/' ∉ part.toList

theorem not_mem_splitOn {c : Char} {text part : List Char} (h : part ∈ text.splitOn c) :
    c ∉ part := by
  induction text generalizing part with
  | nil =>
    rw [List.splitOn_nil, List.mem_singleton] at h
    simp [h]
  | cons d text ih =>
    rw [List.splitOn_cons_eq_if_modifyHead] at h
    split at h
    · rcases List.mem_cons.mp h with rfl | h
      · simp
      · exact ih h
    · rename_i hd
      cases hs : text.splitOn c with
      | nil => exact absurd hs (List.splitOn_ne_nil c text)
      | cons first rest =>
        rw [hs] at h ih
        rcases List.mem_cons.mp h with rfl | h
        · have hfirst := ih List.mem_cons_self
          simp only [List.mem_cons, not_or]
          exact ⟨fun heq => hd (by simp [heq]), hfirst⟩
        · exact ih (List.mem_cons_of_mem _ h)

theorem segments_flat {path part : String} (h : part ∈ segments path) : IsFlat part := by
  obtain ⟨chars, hc, rfl⟩ := List.mem_map.mp h
  simpa [IsFlat] using not_mem_splitOn hc

theorem unsegment_segments (path : String) : unsegment (segments path) = path := by
  apply String.toList_inj.mp
  simp [unsegment, segments, String.toList_intercalate, Function.comp_def]

theorem segments_unsegment {parts : List String} (hne : parts ≠ [])
    (hflat : ∀ part ∈ parts, IsFlat part) : segments (unsegment parts) = parts := by
  unfold segments unsegment
  rw [String.toList_intercalate]
  show (List.splitOn '/' (['/'].intercalate _)).map _ = _
  rw [List.splitOn_intercalate]
  · simp [Function.comp_def]
  · intro l hl
    obtain ⟨part, hp, rfl⟩ := List.mem_map.mp hl
    exact hflat part hp
  · simpa using hne

theorem segments_append (a b : String) : segments (a ++ "/" ++ b) = segments a ++ segments b := by
  unfold segments
  rw [String.toList_append, String.toList_append, List.append_assoc]
  show (List.splitOn '/' (a.toList ++ '/' :: b.toList)).map _ = _
  rw [List.splitOn_append_cons_self, List.map_append]

theorem segments_ne_nil (path : String) : segments path ≠ [] := by
  simp [segments]

theorem segments_empty : segments "" = [""] := by decide

/-! ## Reducing -/

/-- A segment that names an entry. -/
structure IsName (part : String) : Prop where
  ne_empty : part ≠ ""
  ne_dot : part ≠ "."
  ne_up : part ≠ ".."

/-- The stack of a cleaned path, the last segment on top: names, and `..` below them unless the
path is rooted. -/
def IsStack (rooted : Bool) : List String → Prop
  | [] => True
  | top :: below =>
    (top = ".." ∧ rooted = false ∧ ∀ part ∈ below, part = "..") ∨ IsName top ∧ IsStack rooted below

theorem isStack_nil (rooted : Bool) : IsStack rooted [] := trivial

theorem isStack_ups {ups : List String} (h : ∀ part ∈ ups, part = "..") :
    IsStack false ups := by
  cases ups with
  | nil => trivial
  | cons up ups =>
    exact .inl ⟨h up List.mem_cons_self, rfl, fun part hp => h part (List.mem_cons_of_mem _ hp)⟩

/-- A segment that is no name: it says nothing, or it goes up. -/
theorem isName_or (part : String) : (part = "" ∨ part = ".") ∨ part = ".." ∨ IsName part := by
  by_cases h1 : part = ""
  · exact .inl (.inl h1)
  by_cases h2 : part = "."
  · exact .inl (.inr h2)
  by_cases h3 : part = ".."
  · exact .inr (.inl h3)
  · exact .inr (.inr ⟨h1, h2, h3⟩)

section
variable {rooted : Bool} {stack : List String} {part : String}

theorem step_skip (h : part = "" ∨ part = ".") : step rooted stack part = stack := by
  unfold step
  rw [if_pos h]

theorem foldl_segments_empty : (segments "").foldl (step rooted) stack = stack := by
  rw [segments_empty, List.foldl_cons, step_skip (.inl rfl), List.foldl_nil]

theorem step_name (h : IsName part) : step rooted stack part = part :: stack := by
  unfold step
  rw [if_neg (fun hs => hs.elim h.ne_empty h.ne_dot), if_neg h.ne_up]

theorem step_up_nil : step rooted [] ".." = if rooted then [] else [".."] := by
  simp [step]

theorem step_up_cons (h : part ≠ "..") : step rooted (part :: stack) ".." = stack := by
  simp [step, h]

theorem step_up_name (h : IsName part) : step rooted (part :: stack) ".." = stack :=
  step_up_cons h.ne_up

theorem step_up_up : step rooted (".." :: stack) ".." = ".." :: ".." :: stack := by
  simp [step]

/-- Each segment keeps the shape of the stack. -/
theorem step_isStack (h : IsStack rooted stack) (part : String) :
    IsStack rooted (step rooted stack part) := by
  rcases isName_or part with hskip | rfl | hname
  · rw [step_skip hskip]
    exact h
  · cases stack with
    | nil =>
      rw [step_up_nil]
      cases rooted with
      | true => trivial
      | false => exact .inl ⟨rfl, rfl, by simp⟩
    | cons top below =>
      rcases h with ⟨rfl, hroot, hbelow⟩ | ⟨hname, hbelow⟩
      · rw [step_up_up]
        refine .inl ⟨rfl, hroot, fun part hp => ?_⟩
        rcases List.mem_cons.mp hp with rfl | hp
        · rfl
        · exact hbelow part hp
      · rw [step_up_name hname]
        exact hbelow
  · rw [step_name hname]
    exact .inr ⟨hname, h⟩

theorem foldl_isStack (h : IsStack rooted stack) (parts : List String) :
    IsStack rooted (parts.foldl (step rooted) stack) := by
  induction parts generalizing stack with
  | nil => exact h
  | cons part parts ih => exact ih (step_isStack h part)

/-- A stack is what its own segments reduce to. -/
theorem foldl_reverse (h : IsStack rooted stack) :
    stack.reverse.foldl (step rooted) [] = stack := by
  induction stack with
  | nil => rfl
  | cons top below ih =>
    rw [List.reverse_cons, List.foldl_append]
    rcases h with ⟨rfl, rfl, hbelow⟩ | ⟨hname, hbelow⟩
    · rw [ih (isStack_ups hbelow)]
      cases below with
      | nil => rfl
      | cons up ups =>
        rw [hbelow up List.mem_cons_self]
        exact @step_up_up false ups
    · rw [ih hbelow]
      exact step_name hname

theorem foldl_names {names : List String} (h : ∀ part ∈ names, IsName part) :
    names.foldl (step rooted) stack = names.reverse ++ stack := by
  induction names generalizing stack with
  | nil => rfl
  | cons name names ih =>
    rw [List.foldl_cons, step_name (h name List.mem_cons_self),
      ih fun part hp => h part (List.mem_cons_of_mem _ hp)]
    simp

/-- Reducing invents no segment. -/
theorem mem_foldl {parts : List String} (h : part ∈ parts.foldl (step rooted) stack) :
    part ∈ stack ∨ part ∈ parts := by
  induction parts generalizing stack with
  | nil => exact .inl h
  | cons first parts ih =>
    have hstep : part ∈ step rooted stack first → part ∈ stack ∨ part = first := by
      intro hm
      unfold step at hm
      split at hm
      · exact .inl hm
      · split at hm
        · rename_i hup
          cases stack with
          | nil =>
            cases rooted with
            | true => cases hm
            | false => exact .inr (hup ▸ List.mem_singleton.mp hm)
          | cons top below =>
            simp only at hm
            split at hm
            · rcases List.mem_cons.mp hm with rfl | hm
              · exact .inr hup.symm
              · exact .inl hm
            · exact .inl (List.mem_cons_of_mem _ hm)
        · rcases List.mem_cons.mp hm with rfl | hm
          · exact .inr rfl
          · exact .inl hm
    rcases ih h with hm | hm
    · rcases hstep hm with hm | rfl
      · exact .inl hm
      · exact .inr List.mem_cons_self
    · exact .inr (List.mem_cons_of_mem _ hm)

end

/-! ### Reduced lists -/

/-- Segments that a cleaned path may have, in a place where they stay. -/
def IsReduced (rooted : Bool) (parts : List String) : Prop := IsStack rooted parts.reverse

section
variable {rooted : Bool} {parts : List String}

theorem reduce_isReduced (rooted : Bool) (parts : List String) :
    IsReduced rooted (reduce rooted parts) := by
  unfold IsReduced reduce
  rw [List.reverse_reverse]
  exact foldl_isStack (isStack_nil rooted) parts

theorem IsReduced.foldl (h : IsReduced rooted parts) :
    parts.foldl (step rooted) [] = parts.reverse := by
  have := foldl_reverse h
  rwa [List.reverse_reverse] at this

theorem IsReduced.reduce_eq (h : IsReduced rooted parts) : reduce rooted parts = parts := by
  rw [reduce, h.foldl, List.reverse_reverse]

/-- What stands in front may be reduced first. -/
theorem reduce_append (rooted : Bool) (parts more : List String) :
    reduce rooted (reduce rooted parts ++ more) = reduce rooted (parts ++ more) := by
  unfold reduce
  rw [List.foldl_append, List.foldl_append]
  congr 2
  exact foldl_reverse (foldl_isStack (isStack_nil rooted) parts)

theorem reduce_append_names (rooted : Bool) (parts : List String) {names : List String}
    (h : ∀ part ∈ names, IsName part) :
    reduce rooted (parts ++ names) = reduce rooted parts ++ names := by
  unfold reduce
  rw [List.foldl_append, foldl_names h]
  simp

theorem isReduced_names (rooted : Bool) {names : List String} (h : ∀ part ∈ names, IsName part) :
    IsReduced rooted names := by
  have hreduce : reduce rooted names = names := reduce_append_names rooted [] h
  exact hreduce ▸ reduce_isReduced rooted names

theorem reduce_append_skip (rooted : Bool) (parts : List String) {part : String}
    (h : part = "" ∨ part = ".") : reduce rooted (parts ++ [part]) = reduce rooted parts := by
  unfold reduce
  rw [List.foldl_append]
  exact congrArg _ (step_skip h)

/-- A segment that says something, without a separator. -/
structure IsSolid (part : String) : Prop where
  ne_empty : part ≠ ""
  ne_dot : part ≠ "."
  flat : IsFlat part

theorem IsReduced.ne (h : IsReduced rooted parts) {part : String} (hp : part ∈ parts) :
    part ≠ "" ∧ part ≠ "." := by
  have hstack : ∀ stack : List String, IsStack rooted stack → part ∈ stack →
      part ≠ "" ∧ part ≠ "." := by
    intro stack hs hm
    induction stack with
    | nil => cases hm
    | cons top below ih =>
      rcases hs with ⟨rfl, -, hbelow⟩ | ⟨hname, hbelow⟩
      · have hup : part = ".." := (List.mem_cons.mp hm).elim id (hbelow part)
        rw [hup]
        decide
      · rcases List.mem_cons.mp hm with rfl | hm
        · exact ⟨hname.ne_empty, hname.ne_dot⟩
        · exact ih hbelow hm
  exact hstack _ h (List.mem_reverse.mpr hp)

/-- A rooted path is made of names alone. -/
theorem IsReduced.isName (h : IsReduced true parts) {part : String} (hp : part ∈ parts) :
    IsName part := by
  have hstack : ∀ stack : List String, IsStack true stack → part ∈ stack → IsName part := by
    intro stack hs hm
    induction stack with
    | nil => cases hm
    | cons top below ih =>
      obtain ⟨hname, hbelow⟩ := hs.resolve_left fun hup => absurd hup.2.1 (by decide)
      rcases List.mem_cons.mp hm with rfl | hm
      · exact hname
      · exact ih hbelow hm
  exact hstack _ h (List.mem_reverse.mpr hp)

theorem reduce_solid (h : ∀ part ∈ parts, IsFlat part) {part : String}
    (hp : part ∈ reduce rooted parts) : IsSolid part := by
  obtain ⟨h1, h2⟩ := (reduce_isReduced rooted parts).ne hp
  have hm := mem_foldl (List.mem_reverse.mp hp)
  exact ⟨h1, h2, h part (hm.resolve_left (by simp))⟩

end

/-! ## Writing paths -/

theorem isAbsolute_append {a : String} (h : a ≠ "") (b : String) :
    isAbsolute (a ++ b) = isAbsolute a := by
  unfold isAbsolute
  rw [String.toList_append]
  cases ha : a.toList with
  | nil => exact absurd (String.toList_eq_nil_iff.mp ha) h
  | cons c cs => rfl

theorem isAbsolute_flat {part : String} (h : IsFlat part) : isAbsolute part = false := by
  unfold isAbsolute
  cases hp : part.toList with
  | nil => rfl
  | cons c cs =>
    have hne : c ≠ '/' := fun heq => h (by simp [hp, heq])
    simpa using hne

section
variable {parts : List String}

theorem render_unrooted (hne : parts ≠ []) : render false parts = unsegment parts := by
  have hempty : parts.isEmpty = false := by simpa using hne
  rw [render, if_neg Bool.false_ne_true, hempty, if_neg Bool.false_ne_true]

theorem isAbsolute_unsegment_cons {first : String} (h : first ≠ "") (rest : List String) :
    isAbsolute (unsegment (first :: rest)) = isAbsolute first := by
  unfold unsegment
  cases rest with
  | nil => rw [String.intercalate_singleton]
  | cons second rest =>
    rw [String.intercalate_cons_cons, String.append_assoc, isAbsolute_append h]

theorem unsegment_ne_empty {first : String} (h : first ≠ "") (rest : List String) :
    unsegment (first :: rest) ≠ "" := by
  unfold unsegment
  cases rest with
  | nil => rwa [String.intercalate_singleton]
  | cons second rest => simp [String.intercalate_cons_cons]

theorem isAbsolute_unsegment (h : ∀ part ∈ parts, IsSolid part) :
    isAbsolute (unsegment parts) = false := by
  cases parts with
  | nil => rfl
  | cons first rest =>
    have hfirst := h first List.mem_cons_self
    rw [isAbsolute_unsegment_cons hfirst.ne_empty]
    exact isAbsolute_flat hfirst.flat

theorem isAbsolute_render (rooted : Bool) (h : ∀ part ∈ parts, IsSolid part) :
    isAbsolute (render rooted parts) = rooted := by
  cases rooted with
  | true => exact isAbsolute_append (by decide) _
  | false =>
    by_cases hne : parts = []
    · subst hne
      rfl
    · rw [render_unrooted hne]
      exact isAbsolute_unsegment h

theorem segments_rooted (text : String) : segments ("/" ++ text) = "" :: segments text := by
  have hsplit := segments_append "" text
  rwa [String.empty_append, segments_empty] at hsplit

/-- The segments of a written path can be read off it. -/
theorem components_render (rooted : Bool) (h : ∀ part ∈ parts, IsSolid part) :
    components (render rooted parts) = parts := by
  have hkeep : parts.filter (fun part => part ≠ "" ∧ part ≠ ".") = parts :=
    List.filter_eq_self.mpr fun part hp => by simp [(h part hp).ne_empty, (h part hp).ne_dot]
  have hsegments : parts ≠ [] → segments (unsegment parts) = parts := fun hne =>
    segments_unsegment hne fun part hp => (h part hp).flat
  unfold components
  cases rooted with
  | true =>
    rw [render, if_pos rfl, segments_rooted, List.filter_cons_of_neg (by simp)]
    by_cases hne : parts = []
    · subst hne
      decide
    · rw [hsegments hne, hkeep]
  | false =>
    by_cases hne : parts = []
    · subst hne
      decide
    · rw [render_unrooted hne, hsegments hne, hkeep]

/-- Behind any stack, the segments of a written path say what it was written from. -/
theorem foldl_segments_render (rooted rooted' : Bool) (stack : List String)
    (h : ∀ part ∈ parts, IsSolid part) :
    (segments (render rooted' parts)).foldl (step rooted) stack =
      parts.foldl (step rooted) stack := by
  have hflat : ∀ part ∈ parts, IsFlat part := fun part hp => (h part hp).flat
  cases rooted' with
  | true =>
    rw [render, if_pos rfl, segments_rooted, List.foldl_cons, step_skip (.inl rfl)]
    by_cases hne : parts = []
    · subst hne
      exact foldl_segments_empty
    · rw [segments_unsegment hne hflat]
  | false =>
    by_cases hne : parts = []
    · subst hne
      have hdot : segments (render false []) = ["."] := by decide
      rw [hdot, List.foldl_cons, step_skip (.inr rfl)]
    · rw [render_unrooted hne, segments_unsegment hne hflat]

theorem reduce_append_render (rooted : Bool) {rooted' : Bool} (front : List String)
    (h : ∀ part ∈ parts, IsSolid part) :
    reduce rooted (front ++ segments (render rooted' parts)) = reduce rooted (front ++ parts) := by
  unfold reduce
  rw [List.foldl_append, List.foldl_append, foldl_segments_render rooted rooted' _ h]

theorem render_ne_empty (rooted : Bool) (h : ∀ part ∈ parts, IsSolid part) :
    render rooted parts ≠ "" := by
  intro heq
  have hparts := components_render rooted h
  rw [heq] at hparts
  rw [← hparts] at heq
  cases rooted <;> exact absurd heq (by decide)

/-- A written path tells whether it is rooted and what it is made of. -/
theorem render_inj {rooted rooted' : Bool} {parts' : List String}
    (h : ∀ part ∈ parts, IsSolid part) (h' : ∀ part ∈ parts', IsSolid part) :
    render rooted parts = render rooted' parts' ↔ rooted = rooted' ∧ parts = parts' := by
  constructor
  · intro heq
    constructor
    · rw [← isAbsolute_render rooted h, heq, isAbsolute_render rooted' h']
    · rw [← components_render rooted h, heq, components_render rooted' h']
  · rintro ⟨rfl, rfl⟩
    rfl

end
/-! ## Cleaning -/

/-- The segments that are left of a path when it is cleaned. -/
def cleanParts (path : String) : List String := reduce (isAbsolute path) (segments path)

theorem cleanParts_solid {path part : String} (h : part ∈ cleanParts path) : IsSolid part :=
  reduce_solid (fun _ => segments_flat) h

theorem cleanParts_reduced (path : String) : IsReduced (isAbsolute path) (cleanParts path) :=
  reduce_isReduced _ _

theorem clean_eq (path : String) : clean path = render (isAbsolute path) (cleanParts path) := rfl

theorem isAbsolute_clean (path : String) : isAbsolute (clean path) = isAbsolute path :=
  isAbsolute_render _ fun _ => cleanParts_solid

theorem components_clean (path : String) : components (clean path) = cleanParts path :=
  components_render _ fun _ => cleanParts_solid

/-- What is left of a written path is what it was written from. -/
theorem cleanParts_render {rooted : Bool} {parts : List String} (h : IsReduced rooted parts)
    (hsolid : ∀ part ∈ parts, IsSolid part) : cleanParts (render rooted parts) = parts := by
  rw [cleanParts, isAbsolute_render rooted hsolid, reduce,
    foldl_segments_render rooted rooted [] hsolid, h.foldl, List.reverse_reverse]

theorem clean_render {rooted : Bool} {parts : List String} (h : IsReduced rooted parts)
    (hsolid : ∀ part ∈ parts, IsSolid part) : clean (render rooted parts) = render rooted parts := by
  rw [clean_eq, isAbsolute_render rooted hsolid, cleanParts_render h hsolid]

theorem clean_clean (path : String) : clean (clean path) = clean path :=
  clean_render (cleanParts_reduced path) fun _ => cleanParts_solid

theorem clean_ne_empty (path : String) : clean path ≠ "" :=
  render_ne_empty _ fun _ => cleanParts_solid

/-- **Cleaning.** Two paths have the same shortest spelling exactly when both or none are rooted
and the same segments are left of them. -/
theorem clean_inj (p q : String) :
    clean p = clean q ↔ isAbsolute p = isAbsolute q ∧ cleanParts p = cleanParts q :=
  render_inj (fun _ => cleanParts_solid) fun _ => cleanParts_solid

/-! ## Joining -/

theorem segments_unsegment_flatMap {parts : List String} (hne : parts ≠ []) :
    segments (unsegment parts) = parts.flatMap segments := by
  induction parts with
  | nil => exact absurd rfl hne
  | cons first rest ih =>
    cases rest with
    | nil => simp [unsegment]
    | cons second rest =>
      have hjoined : unsegment (first :: second :: rest) =
          first ++ "/" ++ unsegment (second :: rest) := String.intercalate_cons_cons
      rw [hjoined, segments_append, ih (List.cons_ne_nil second rest)]
      rfl

/-- Whether the first text that is not empty is rooted. -/
def startsAtRoot : List String → Bool
  | [] => false
  | part :: rest => if part = "" then startsAtRoot rest else isAbsolute part

theorem startsAtRoot_cons {part : String} (h : part ≠ "") (rest : List String) :
    startsAtRoot (part :: rest) = isAbsolute part := if_neg h

theorem startsAtRoot_singleton (part : String) : startsAtRoot [part] = isAbsolute part := by
  by_cases hpart : part = ""
  · rw [hpart]
    rfl
  · exact startsAtRoot_cons hpart []

/-- What stands behind and is not rooted does not root the whole. -/
theorem startsAtRoot_append_unrooted (parts : List String) {more : List String}
    (h : ∀ part ∈ more, isAbsolute part = false) :
    startsAtRoot (parts ++ more) = startsAtRoot parts := by
  induction parts with
  | nil =>
    show startsAtRoot more = false
    induction more with
    | nil => rfl
    | cons part more ih =>
      have hrest : startsAtRoot more = false := ih fun part hp => h part (List.mem_cons_of_mem _ hp)
      simp [startsAtRoot, hrest, h part List.mem_cons_self]
  | cons part parts ih => rw [List.cons_append, startsAtRoot, startsAtRoot, ih]

theorem startsAtRoot_filter (parts : List String) :
    startsAtRoot (parts.filter (· ≠ "")) = startsAtRoot parts := by
  induction parts with
  | nil => rfl
  | cons part rest ih =>
    by_cases hpart : part = ""
    · rw [List.filter_cons_of_neg (by simp [hpart]), ih, startsAtRoot, if_pos hpart]
    · rw [List.filter_cons_of_pos (by simp [hpart]), startsAtRoot_cons hpart,
        startsAtRoot_cons hpart]

theorem foldl_flatMap_filter (rooted : Bool) (parts stack : List String) :
    ((parts.filter (· ≠ "")).flatMap segments).foldl (step rooted) stack =
      (parts.flatMap segments).foldl (step rooted) stack := by
  induction parts generalizing stack with
  | nil => rfl
  | cons part rest ih =>
    by_cases hpart : part = ""
    · rw [List.filter_cons_of_neg (by simp [hpart]), ih, List.flatMap_cons, hpart,
        List.foldl_append, foldl_segments_empty]
    · rw [List.filter_cons_of_pos (by simp [hpart]), List.flatMap_cons, List.flatMap_cons,
        List.foldl_append, List.foldl_append, ih]

/-- **Joining.** Joined texts are read as one list of segments, and are rooted if the first of them
is that is not empty. -/
theorem join_eq (parts : List String) :
    join parts = render (startsAtRoot parts)
      (reduce (startsAtRoot parts) (parts.flatMap segments)) := by
  have hroot := startsAtRoot_filter parts
  have hreduce : reduce (startsAtRoot parts) ((parts.filter (· ≠ "")).flatMap segments) =
      reduce (startsAtRoot parts) (parts.flatMap segments) := by
    rw [reduce, foldl_flatMap_filter, reduce]
  have hnonempty : ∀ part ∈ parts.filter (· ≠ ""), part ≠ "" := fun part hp => by
    simpa using (List.mem_filter.mp hp).2
  rw [← hreduce, ← hroot]
  unfold join
  generalize parts.filter (· ≠ "") = kept at hnonempty
  cases kept with
  | nil => rfl
  | cons first rest =>
    have hfirst := hnonempty first List.mem_cons_self
    simp only [unsegment_ne_empty hfirst rest, if_false]
    rw [clean, isAbsolute_unsegment_cons hfirst, startsAtRoot_cons hfirst,
      segments_unsegment_flatMap (List.cons_ne_nil first rest)]

/-- A path that is joined to a place is reduced behind the place. -/
theorem join_pair (place : String) {path : String} (hrel : isAbsolute path = false) :
    join [place, path] =
      render (isAbsolute place) (reduce (isAbsolute place) (cleanParts place ++ segments path)) := by
  have hroot : startsAtRoot [place, path] = isAbsolute place := by
    rw [← startsAtRoot_singleton]
    exact startsAtRoot_append_unrooted [place] (by simpa using hrel)
  rw [join_eq, hroot, cleanParts, reduce_append]
  simp

/-! ## Relative paths -/

theorem sharedLength_append (as bs : List String) : sharedLength as (as ++ bs) = as.length := by
  induction as with
  | nil => cases bs <;> rfl
  | cons a as ih => simp [sharedLength, ih]

theorem take_sharedLength (as bs : List String) :
    as.take (sharedLength as bs) = bs.take (sharedLength as bs) := by
  induction as generalizing bs with
  | nil => cases bs <;> simp [sharedLength]
  | cons a as ih =>
    cases bs with
    | nil => simp [sharedLength]
    | cons b bs =>
      unfold sharedLength
      split
      · rename_i heq
        simp [heq, ih bs]
      · rfl

section
variable {base target : String}

/-- The way from a place down to what lies below it. -/
theorem relative_below (hroot : isAbsolute base = isAbsolute target) {rest : List String}
    (h : cleanParts target = cleanParts base ++ rest) :
    relative base target = .ok (render false rest) := by
  unfold relative
  simp only [isAbsolute_clean, components_clean, hroot, h, sharedLength_append]
  by_cases hrest : rest = []
  · rw [if_pos ((clean_inj base target).mpr ⟨hroot, by simp [h, hrest]⟩), hrest]
    rfl
  · have hclean : clean base ≠ clean target := fun heq => by
      have := ((clean_inj base target).mp heq).2
      rw [h] at this
      exact hrest (List.self_eq_append_right.mp this)
    rw [render_unrooted hrest]
    simp [hclean]

/-- **Relative paths.** A relative path climbs from what two paths share, over names only, and
descends to the target. -/
theorem relative_eq {path : String} (h : relative base target = .ok path) :
    isAbsolute base = isAbsolute target ∧ ∃ shared climbs rest,
      cleanParts base = shared ++ climbs ∧ cleanParts target = shared ++ rest ∧ ".." ∉ climbs ∧
      path = render false (climbs.map (fun _ => "..") ++ rest) := by
  unfold relative at h
  simp only [isAbsolute_clean, components_clean] at h
  split at h
  · rename_i hclean
    obtain ⟨hroot, hparts⟩ := (clean_inj base target).mp hclean
    refine ⟨hroot, cleanParts base, [], [], by simp, by simp [hparts], by simp, ?_⟩
    exact (Except.ok.inj h).symm
  · rename_i hclean
    split at h
    · cases h
    · rename_i hroot
      replace hroot : isAbsolute base = isAbsolute target := by simpa using hroot
      split at h
      · cases h
      · rename_i hup
        have hshared := take_sharedLength (cleanParts base) (cleanParts target)
        generalize sharedLength (cleanParts base) (cleanParts target) = n at h hup hshared
        refine ⟨hroot, (cleanParts base).take n, (cleanParts base).drop n,
          (cleanParts target).drop n, (List.take_append_drop ..).symm, ?_, by simpa using hup, ?_⟩
        · rw [hshared, List.take_append_drop]
        · -- the two paths differ, so there is something to write
          have hsome : ((cleanParts base).drop n).map (fun _ => "..") ++
              (cleanParts target).drop n ≠ [] := by
            intro hnone
            rw [List.append_eq_nil_iff, List.map_eq_nil_iff] at hnone
            refine hclean ((clean_inj base target).mpr ⟨hroot, ?_⟩)
            rw [← List.take_append_drop n (cleanParts base), hshared, hnone.1, ← hnone.2,
              List.take_append_drop]
          rw [render_unrooted hsome]
          exact (Except.ok.inj h).symm

end
end GuestLint.Path
