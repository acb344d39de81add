import Mathlib.Data.List.Induction
import GuestLint.Proofs.Path.Lexical

/-!
# Joining and resolving in parts

A list of texts may be joined or resolved piece by piece. The segments of a cleaned text do to any
stack what those of the text itself do, so a `..` that comes later climbs over the same names
whether the text in front was cleaned or not. What may not change is the first text: it decides
whether the whole is rooted.

* `foldl_reduce`, `foldl_segments_clean`: reduced segments do what they were reduced from.
* `join_append`: texts in front may be joined first, if they root the whole or nothing does.
* `join_cleaned`: a text without a root may be cleaned first.
* `resolving_append`: which texts take part in resolving.
* `joins_in_parts`: both for all lists of texts.
-/
namespace GuestLint.Path

/-! ## Reduced segments on any stack -/

section
variable {rooted : Bool} {stack reduced : List String}

theorem foldl_reverse_cons (part : String) :
    (part :: reduced).reverse.foldl (step rooted) stack =
      step rooted (reduced.reverse.foldl (step rooted) stack) part := by
  rw [List.reverse_cons, List.foldl_append]
  rfl

/-- A segment may be reduced with those before it, whatever stack these are put on. -/
theorem foldl_reverse_step (h : IsStack false reduced) (part : String) :
    (step false reduced part).reverse.foldl (step rooted) stack =
      step rooted (reduced.reverse.foldl (step rooted) stack) part := by
  rcases isName_or part with hskip | rfl | hname
  · rw [step_skip hskip, step_skip hskip]
  · cases reduced with
    | nil => rfl
    | cons top below =>
      rcases h with ⟨rfl, -, -⟩ | ⟨htop, -⟩
      · rw [step_up_up]
        exact foldl_reverse_cons ".."
      · rw [step_up_name htop, foldl_reverse_cons, step_name htop, step_up_name htop]
  · rw [step_name hname]
    exact foldl_reverse_cons part

/-- Without a root, segments may be reduced before they are put on a stack. -/
theorem foldl_reduce (parts : List String) :
    (reduce false parts).foldl (step rooted) stack = parts.foldl (step rooted) stack := by
  induction parts using List.reverseRecOn with
  | nil => rfl
  | append_singleton parts part ih =>
    have hstack : IsStack false (parts.foldl (step false) []) := foldl_isStack (isStack_nil false) parts
    rw [reduce, List.foldl_append, List.foldl_append, ← ih]
    exact foldl_reverse_step hstack part

theorem foldl_segments_clean {path : String} (h : isAbsolute path = false) :
    (segments (clean path)).foldl (step rooted) stack =
      (segments path).foldl (step rooted) stack := by
  rw [clean_eq, foldl_segments_render _ _ _ fun _ => cleanParts_solid, cleanParts, h, foldl_reduce]

end

/-! ## Joining -/

/-- What is left of the segments of some texts can be written as a path. -/
theorem reduce_flatMap_solid {rooted : Bool} {parts : List String} :
    ∀ part ∈ reduce rooted (parts.flatMap segments), IsSolid part := by
  refine fun _ => reduce_solid fun part hp => ?_
  obtain ⟨_, -, hsegment⟩ := List.mem_flatMap.mp hp
  exact segments_flat hsegment

theorem isAbsolute_join (parts : List String) : isAbsolute (join parts) = startsAtRoot parts := by
  rw [join_eq]
  exact isAbsolute_render _ reduce_flatMap_solid

theorem join_ne_empty (parts : List String) : join parts ≠ "" := by
  rw [join_eq]
  exact render_ne_empty _ reduce_flatMap_solid

theorem startsAtRoot_append {parts : List String} (h : ∃ part ∈ parts, part ≠ "")
    (more : List String) : startsAtRoot (parts ++ more) = startsAtRoot parts := by
  induction parts with
  | nil => simp at h
  | cons part parts ih =>
    rw [List.cons_append, startsAtRoot, startsAtRoot]
    by_cases hpart : part = ""
    · rw [if_pos hpart, if_pos hpart]
      simp only [List.mem_cons, exists_eq_or_imp, hpart, ne_eq, not_true, false_or] at h
      exact ih h
    · rw [if_neg hpart, if_neg hpart]

/-- Texts in front may be joined first, unless they are all empty and a root comes behind them. -/
theorem join_append {xs ys : List String} (h : startsAtRoot (xs ++ ys) = startsAtRoot xs) :
    join (xs ++ ys) = join ([join xs] ++ ys) := by
  have hroot : startsAtRoot ([join xs] ++ ys) = startsAtRoot xs := by
    rw [List.singleton_append, startsAtRoot_cons (join_ne_empty xs), isAbsolute_join]
  have hfront : reduce (startsAtRoot xs) (segments (join xs)) =
      reduce (startsAtRoot xs) (xs.flatMap segments) := by
    rw [join_eq xs, reduce, foldl_segments_render _ _ _ reduce_flatMap_solid, ← reduce,
      (reduce_isReduced _ _).reduce_eq]
  rw [join_eq (xs ++ ys), join_eq ([join xs] ++ ys), h, hroot]
  refine congrArg _ ?_
  rw [List.flatMap_append, List.flatMap_append, List.flatMap_singleton, ← reduce_append,
    ← hfront, reduce_append]

theorem startsAtRoot_cleaned {path : String} (hne : path ≠ "") (xs ys : List String) :
    startsAtRoot (xs ++ clean path :: ys) = startsAtRoot (xs ++ path :: ys) := by
  induction xs with
  | nil =>
    rw [List.nil_append, List.nil_append, startsAtRoot_cons (clean_ne_empty path),
      startsAtRoot_cons hne, isAbsolute_clean]
  | cons part xs ih => rw [List.cons_append, List.cons_append, startsAtRoot, startsAtRoot, ih]

/-- A text without a root may be cleaned first. -/
theorem join_cleaned {path : String} (hne : path ≠ "") (hrel : isAbsolute path = false)
    (xs ys : List String) : join (xs ++ [path] ++ ys) = join (xs ++ [clean path] ++ ys) := by
  rw [List.append_assoc, List.append_assoc, List.singleton_append, List.singleton_append, join_eq,
    join_eq (xs ++ clean path :: ys), startsAtRoot_cleaned hne]
  refine congrArg _ ?_
  unfold reduce
  simp only [List.flatMap_append, List.flatMap_cons, List.foldl_append, foldl_segments_clean hrel]

/-! ## Resolving -/

/-- The texts that take part in resolving: from the last rooted one on, without the empty ones. -/
def resolving (parts : List String) : List String :=
  (fromLastRoot (parts.reverse.filter (· ≠ ""))).reverse

theorem resolve_eq (parts : List String) : resolve parts = join (resolving parts) := rfl

theorem fromLastRoot_append (late early : List String) :
    fromLastRoot (late ++ early) =
      if late.any isAbsolute then fromLastRoot late else late ++ fromLastRoot early := by
  induction late with
  | nil => rfl
  | cons part late ih =>
    rw [List.cons_append, fromLastRoot, fromLastRoot, List.any_cons, ih]
    cases isAbsolute part with
    | true => rfl
    | false =>
      simp only [Bool.false_or, Bool.false_eq_true, if_false]
      split <;> rfl

theorem ne_empty_of_isAbsolute {part : String} (h : isAbsolute part = true) : part ≠ "" := by
  rintro rfl
  exact absurd h (by decide)

/-- What stands in front takes part only if no rooted text follows. -/
theorem resolving_append (xs ys : List String) :
    resolving (xs ++ ys) =
      if ys.any isAbsolute then resolving ys else resolving xs ++ ys.filter (· ≠ "") := by
  have hany : (ys.reverse.filter (· ≠ "")).any isAbsolute = ys.any isAbsolute := by
    rw [Bool.eq_iff_iff, List.any_eq_true, List.any_eq_true]
    constructor
    · rintro ⟨part, hp, habs⟩
      exact ⟨part, by simpa using (List.mem_filter.mp hp).1, habs⟩
    · rintro ⟨part, hp, habs⟩
      exact ⟨part, by simp [hp, ne_empty_of_isAbsolute habs], habs⟩
  have hback : (ys.reverse.filter (· ≠ "")).reverse = ys.filter (· ≠ "") := by
    rw [List.filter_reverse, List.reverse_reverse]
  unfold resolving
  rw [List.reverse_append, List.filter_append, fromLastRoot_append, hany]
  split
  · rfl
  · rw [List.reverse_append, hback]

theorem resolving_singleton {part : String} (h : part ≠ "") : resolving [part] = [part] := by
  simp [resolving, h, fromLastRoot]

theorem startsAtRoot_resolving (parts : List String) :
    startsAtRoot (resolving parts) = parts.any isAbsolute := by
  induction parts using List.reverseRecOn with
  | nil => rfl
  | append_singleton parts part ih =>
    rw [resolving_append, List.any_append, List.any_cons, List.any_nil, Bool.or_false]
    cases habs : isAbsolute part with
    | true =>
      rw [if_pos rfl, resolving_singleton (ne_empty_of_isAbsolute habs), startsAtRoot_singleton,
        habs, Bool.or_true]
    | false =>
      rw [if_neg Bool.false_ne_true, Bool.or_false, ← ih]
      refine startsAtRoot_append_unrooted _ fun text ht => ?_
      obtain rfl := List.mem_singleton.mp (List.mem_filter.mp ht).1
      exact habs

theorem resolve_append (xs ys : List String) :
    resolve (xs ++ ys) = resolve ([resolve xs] ++ ys) := by
  have hsome : resolve xs ≠ "" := join_ne_empty (resolving xs)
  rw [resolve_eq, resolve_eq ([resolve xs] ++ ys), resolving_append, resolving_append [resolve xs],
    resolving_singleton hsome]
  split
  · rfl
  · rename_i hrel
    refine join_append (startsAtRoot_append_unrooted _ fun part hp => ?_)
    have habs := List.any_eq_false.mp (Bool.not_eq_true _ ▸ hrel) part (List.mem_filter.mp hp).1
    simpa using habs

theorem resolve_cleaned {path : String} (hne : path ≠ "") (hrel : isAbsolute path = false)
    (xs ys : List String) : resolve (xs ++ [path] ++ ys) = resolve (xs ++ [clean path] ++ ys) := by
  have hmiddle : ∀ text, text ≠ "" → isAbsolute text = false →
      resolving (xs ++ [text]) = resolving xs ++ [text] := by
    intro text htext habs
    rw [resolving_append]
    simp [habs, htext]
  have hclean : isAbsolute (clean path) = false := (isAbsolute_clean path).trans hrel
  rw [resolve_eq, resolve_eq, resolving_append, resolving_append _ ys, hmiddle path hne hrel,
    hmiddle _ (clean_ne_empty path) hclean]
  split
  · rfl
  · exact join_cleaned hne hrel _ _

/-- **Joining in parts.** For all lists of texts: what stands in front may be resolved first, and
joined first if some of it is not empty; a path resolves to a rooted one exactly when one of the
texts is rooted; and any text without a root may be cleaned before it is joined or resolved. -/
theorem joins_in_parts (xs ys : List String) :
    resolve (xs ++ ys) = resolve ([resolve xs] ++ ys) ∧
    (isAbsolute (resolve (xs ++ ys)) = true ↔ ∃ part ∈ xs ++ ys, isAbsolute part = true) ∧
    ((∃ part ∈ xs, part ≠ "") → join (xs ++ ys) = join ([join xs] ++ ys)) ∧
    ∀ part, part ≠ "" → isAbsolute part = false →
      join (xs ++ [part] ++ ys) = join (xs ++ [clean part] ++ ys) ∧
      resolve (xs ++ [part] ++ ys) = resolve (xs ++ [clean part] ++ ys) := by
  refine ⟨resolve_append xs ys, ?_, fun hsome => join_append (startsAtRoot_append hsome ys), ?_⟩
  · rw [resolve_eq, isAbsolute_join, startsAtRoot_resolving, List.any_eq_true]
  · exact fun part hne hrel => ⟨join_cleaned hne hrel xs ys, resolve_cleaned hne hrel xs ys⟩

/-- With nothing in front, a root that comes later would be lost. -/
example : join ([""] ++ ["/a"]) = "/a" ∧ join ([join [""]] ++ ["/a"]) = "a" := by decide +kernel

end GuestLint.Path
