import GuestLint.Proofs.Path.Lexical

/-!
# Relative paths

A relative path leads from one place to another when joining it to the first spells the second.
What stands at the start of a place as `..` stays there, whatever is joined to the place, while
names can be climbed over. So between places that are rooted alike a way exists exactly when the
first has no `..` but those which the two share.

* `foldl_climbs`, `foldl_keeps_ups`: climbing takes names back, and no `..`.
* `join_render`: a written path is joined segment by segment.
* `ClimbsPast`: a `..` in one path that is not shared by the other.
* `relative_leads_iff`: relative paths lead to their targets in their shortest spelling, and none is
  missed.
-/
namespace GuestLint.Path

/-! ## Stacks -/

section
variable {rooted : Bool} {top below stack ups : List String}

/-- What lies at the bottom of a stack is a stack. -/
theorem IsStack.of_append (h : IsStack rooted (top ++ below)) : IsStack rooted below := by
  induction top with
  | nil => exact h
  | cons part top ih =>
    rcases h with ⟨-, rfl, hbelow⟩ | ⟨-, hrest⟩
    · exact isStack_ups fun part hp => hbelow part (List.mem_append_right top hp)
    · exact ih hrest

/-- What lies at the top of a stack is a stack on any number of `..`. -/
theorem IsStack.append_ups (h : IsStack rooted (top ++ below))
    (hups : ∀ part ∈ ups, part = "..") : IsStack false (top ++ ups) := by
  induction top with
  | nil => exact isStack_ups hups
  | cons part top ih =>
    rcases h with ⟨rfl, -, hbelow⟩ | ⟨hname, hrest⟩
    · refine .inl ⟨rfl, rfl, fun part hp => ?_⟩
      rcases List.mem_append.mp hp with hp | hp
      · exact hbelow part (List.mem_append_left below hp)
      · exact hups part hp
    · exact .inr ⟨hname, ih hrest⟩

/-- Below a `..` there are only others. -/
theorem IsStack.below_up (h : IsStack rooted (top ++ ".." :: below)) :
    ∀ part ∈ below, part = ".." := by
  have hup : IsStack rooted (".." :: below) := h.of_append
  rcases hup with ⟨-, -, hbelow⟩ | ⟨hname, -⟩
  · exact hbelow
  · exact absurd rfl hname.ne_up

/-- Climbing takes back as many segments as there are names on top. -/
theorem foldl_climbs (h : ".." ∉ top) :
    (top.map fun _ => "..").foldl (step rooted) (top ++ stack) = stack := by
  induction top with
  | nil => rfl
  | cons part top ih =>
    rw [List.mem_cons, not_or] at h
    rw [List.map_cons, List.cons_append, List.foldl_cons, step_up_cons (Ne.symm h.1)]
    exact ih h.2

theorem step_keeps_ups (rooted : Bool) (hups : ∀ part ∈ ups, part = "..") (top : List String)
    (part : String) : ∃ top', step rooted (top ++ ups) part = top' ++ ups := by
  rcases isName_or part with hskip | rfl | hname
  · exact ⟨top, step_skip hskip⟩
  · cases top with
    | nil =>
      cases ups with
      | nil => exact ⟨step rooted [] "..", (List.append_nil _).symm⟩
      | cons up ups =>
        obtain rfl := hups up List.mem_cons_self
        exact ⟨[".."], step_up_up⟩
    | cons first top =>
      by_cases hfirst : first = ".."
      · subst hfirst
        exact ⟨".." :: ".." :: top, step_up_up⟩
      · exact ⟨top, step_up_cons hfirst⟩
  · exact ⟨part :: top, step_name hname⟩

/-- The `..` at the bottom of a stack stay there. -/
theorem foldl_keeps_ups (rooted : Bool) (hups : ∀ part ∈ ups, part = "..")
    (parts top : List String) : ∃ top', parts.foldl (step rooted) (top ++ ups) = top' ++ ups := by
  induction parts generalizing top with
  | nil => exact ⟨top, rfl⟩
  | cons part parts ih =>
    obtain ⟨top', hstep⟩ := step_keeps_ups rooted hups top part
    rw [List.foldl_cons, hstep]
    exact ih top'

end

/-! ## Reading written paths -/

section
variable {rooted : Bool} {parts : List String}

/-- A written path is joined segment by segment. -/
theorem join_render (place : String) (h : ∀ part ∈ parts, IsSolid part) :
    join [place, render false parts] =
      render (isAbsolute place) (reduce (isAbsolute place) (cleanParts place ++ parts)) := by
  rw [join_pair place (isAbsolute_render false h), reduce_append_render _ _ h]

end

/-! ## Ways -/

section
variable {base target : String} {shared climbs rest : List String}

/-- A way over names leads back to what two places share, and from there to the target. -/
theorem reduce_way (hbase : cleanParts base = shared ++ climbs)
    (htarget : cleanParts target = shared ++ rest) (hroot : isAbsolute base = isAbsolute target)
    (hup : ".." ∉ climbs) :
    reduce (isAbsolute base) (cleanParts base ++ (climbs.map (fun _ => "..") ++ rest)) =
      cleanParts target := by
  have hstack : IsStack (isAbsolute base) (climbs.reverse ++ shared.reverse) := by
    rw [← List.reverse_append, ← hbase]
    exact cleanParts_reduced base
  have hshared : IsReduced (isAbsolute base) shared := hstack.of_append
  have hback : (climbs.map fun _ => "..").foldl (step (isAbsolute base))
      (climbs.reverse ++ shared.reverse) = shared.reverse := by
    have hconst : (climbs.map fun _ => "..") = climbs.reverse.map fun _ => ".." := by
      rw [List.map_const', List.map_const', List.length_reverse]
    rw [hconst]
    exact foldl_climbs (by simpa using hup)
  have htarget' : reduce (isAbsolute base) (shared ++ rest) = shared ++ rest := by
    rw [← htarget, hroot]
    exact (cleanParts_reduced target).reduce_eq
  rw [htarget, ← htarget']
  unfold reduce
  rw [List.foldl_append, (cleanParts_reduced base).foldl, hbase, List.reverse_append,
    List.foldl_append, hback, List.foldl_append, hshared.foldl]

theorem way_solid (climbs : List String) (htarget : cleanParts target = shared ++ rest) :
    ∀ part ∈ climbs.map (fun _ => "..") ++ rest, IsSolid part := by
  intro part hp
  rcases List.mem_append.mp hp with hp | hp
  · obtain ⟨-, -, rfl⟩ := List.mem_map.mp hp
    exact ⟨by decide, by decide, by simp [IsFlat]⟩
  · exact cleanParts_solid (htarget ▸ List.mem_append_right shared hp)

theorem way_reduced (htarget : cleanParts target = shared ++ rest) :
    IsReduced false (climbs.map (fun _ => "..") ++ rest) := by
  have hstack : IsStack (isAbsolute target) (rest.reverse ++ shared.reverse) := by
    rw [← List.reverse_append, ← htarget]
    exact cleanParts_reduced target
  unfold IsReduced
  rw [List.reverse_append]
  refine hstack.append_ups fun part hp => ?_
  obtain ⟨-, -, rfl⟩ := List.mem_map.mp (List.mem_reverse.mp hp)
  rfl

/-! ## Where no way leads -/

/-- The first path has a `..` that is not part of what it shares with the second. -/
def ClimbsPast (parts others : List String) : Prop :=
  ∃ front, front ++ [".."] <+: parts ∧ ¬ front ++ [".."] <+: others

theorem length_le_sharedLength {front parts others : List String} (h : front <+: parts)
    (h' : front <+: others) : front.length ≤ sharedLength parts others := by
  induction front generalizing parts others with
  | nil => exact Nat.zero_le _
  | cons part front ih =>
    obtain ⟨rest, rfl⟩ := h
    obtain ⟨rest', rfl⟩ := h'
    simp only [List.cons_append, sharedLength, if_true, List.length_cons]
    exact Nat.succ_le_succ (ih (List.prefix_append front rest) (List.prefix_append front rest'))

/-- Behind what two paths share, the first one climbs exactly when it climbs past the second. -/
theorem climbsPast_iff (parts others : List String) :
    ".." ∈ parts.drop (sharedLength parts others) ↔ ClimbsPast parts others := by
  have hshared := take_sharedLength parts others
  have hlength : ∀ front : List String, front <+: parts → front <+: others →
      front.length ≤ sharedLength parts others := fun _ => length_le_sharedLength
  generalize sharedLength parts others = n at hshared hlength
  constructor
  · intro hmem
    obtain ⟨before, after, hdrop⟩ := List.append_of_mem hmem
    have hparts : parts.take n ++ before ++ [".."] ++ after = parts := by
      rw [List.append_assoc, List.append_assoc, List.singleton_append, ← hdrop,
        List.take_append_drop]
    refine ⟨parts.take n ++ before, ⟨after, hparts⟩, fun hother => ?_⟩
    have hle := hlength _ ⟨after, hparts⟩ hother
    have hn : parts.length - n = before.length + (after.length + 1) := by
      rw [← List.length_drop, hdrop, List.length_append, List.length_cons]
    rw [List.length_append, List.length_append, List.length_take, List.length_singleton] at hle
    omega
  · rintro ⟨front, ⟨after, hparts⟩, hother⟩
    by_cases hlt : front.length < n
    · -- the `..` would be shared
      refine absurd ?_ hother
      have htake : front ++ [".."] = parts.take (min (front.length + 1) n) := by
        rw [Nat.min_eq_left (Nat.succ_le_of_lt hlt), ← hparts]
        exact (List.take_left' (by simp)).symm
      rw [htake, ← List.take_take, hshared, List.take_take]
      exact List.take_prefix _ _
    · rw [← hparts, List.append_assoc, List.drop_append_of_le_length (Nat.le_of_not_lt hlt)]
      simp

/-- A way from a place keeps the `..` at its start. -/
theorem not_climbsPast {parts : List String} {path : String}
    (h : reduce (isAbsolute base) (cleanParts base ++ parts) = cleanParts path) :
    ¬ ClimbsPast (cleanParts base) (cleanParts path) := by
  rintro ⟨front, ⟨after, hbase⟩, hother⟩
  have hreverse : (cleanParts base).reverse = after.reverse ++ ".." :: front.reverse := by
    rw [← hbase]
    simp
  have hstack : IsStack (isAbsolute base) (after.reverse ++ ".." :: front.reverse) :=
    hreverse ▸ cleanParts_reduced base
  have hups : ∀ part ∈ ".." :: front.reverse, part = ".." := by
    intro part hp
    rcases List.mem_cons.mp hp with rfl | hp
    · rfl
    · exact hstack.below_up part hp
  obtain ⟨top, hkept⟩ := foldl_keeps_ups (isAbsolute base) hups parts after.reverse
  refine hother ⟨top.reverse, ?_⟩
  rw [← h, reduce, List.foldl_append, (cleanParts_reduced base).foldl, hreverse, hkept]
  simp

/-- A path without a root leads only to places that are rooted like its base and share the `..` of
the base. -/
theorem not_climbsPast_of_join {path : String} (hrel : isAbsolute path = false)
    (hjoin : join [base, path] = clean target) : isAbsolute base = isAbsolute target ∧
      ¬ ClimbsPast (cleanParts base) (cleanParts target) := by
  have hflat : ∀ part ∈ cleanParts base ++ segments path, IsFlat part := by
    intro part hp
    rcases List.mem_append.mp hp with hp | hp
    · exact (cleanParts_solid hp).flat
    · exact segments_flat hp
  rw [join_pair base hrel, clean_eq] at hjoin
  obtain ⟨hroot, hparts⟩ :=
    (render_inj (fun _ => reduce_solid hflat) fun _ => cleanParts_solid).mp hjoin
  exact ⟨hroot, not_climbsPast hparts⟩

/-- A relative path is refused exactly for paths that are not rooted alike, and for a base that
climbs past the target. -/
theorem relative_error_iff (e : NotRelative) :
    relative base target = .error e ↔ e = ⟨base, target⟩ ∧ (isAbsolute base ≠ isAbsolute target ∨
      ClimbsPast (cleanParts base) (cleanParts target)) := by
  have hsame : clean base = clean target → ¬ (isAbsolute base ≠ isAbsolute target ∨
      ClimbsPast (cleanParts base) (cleanParts target)) := by
    intro hclean
    obtain ⟨hroot, hparts⟩ := (clean_inj base target).mp hclean
    rintro (hne | ⟨front, hfront, hother⟩)
    · exact hne hroot
    · exact hother (hparts ▸ hfront)
  unfold relative
  simp only [isAbsolute_clean, components_clean]
  split
  · rename_i hclean
    simp only [reduceCtorEq, false_iff]
    exact fun h => hsame hclean h.2
  · split
    · rename_i hroot
      simp only [Except.error.injEq]
      exact ⟨fun h => ⟨h.symm, .inl hroot⟩, fun h => h.1.symm⟩
    · rename_i hroot
      split
      · rename_i hup
        simp only [Except.error.injEq]
        refine ⟨fun h => ⟨h.symm, .inr ((climbsPast_iff _ _).mp ?_)⟩, fun h => h.1.symm⟩
        simpa using hup
      · rename_i hup
        simp only [reduceCtorEq, false_iff]
        rintro ⟨-, hne | hclimbs⟩
        · exact hroot hne
        · exact hup (by simpa using (climbsPast_iff _ _).mpr hclimbs)

/-- **Relative paths.** A relative path leads to its target, has no root and is in its shortest
spelling. None is given exactly when no path without a root leads to the target, which is so when
only one of the two is rooted, or the base climbs past what it shares with the target. -/
theorem relative_leads_iff (base target : String) :
    (∀ path, relative base target = .ok path →
      join [base, path] = clean target ∧ isAbsolute path = false ∧ clean path = path) ∧
    ((∃ e, relative base target = .error e) ↔
      ∀ path, isAbsolute path = false → join [base, path] ≠ clean target) ∧
    ∀ e, relative base target = .error e ↔ e = ⟨base, target⟩ ∧
      (isAbsolute base ≠ isAbsolute target ∨
        ClimbsPast (components (clean base)) (components (clean target))) := by
  have hleads : ∀ path, relative base target = .ok path →
      join [base, path] = clean target ∧ isAbsolute path = false ∧ clean path = path := by
    intro path h
    obtain ⟨hroot, shared, climbs, rest, hbase, htarget, hup, rfl⟩ := relative_eq h
    have hsolid := way_solid climbs htarget
    refine ⟨?_, isAbsolute_render false hsolid, clean_render (way_reduced htarget) hsolid⟩
    rw [join_render base hsolid, reduce_way hbase htarget hroot hup, hroot]
    rfl
  refine ⟨hleads, ⟨?_, fun hnone => ?_⟩, fun e => ?_⟩
  · rintro ⟨e, he⟩ path hrel hjoin
    obtain ⟨hroot, hpast⟩ := not_climbsPast_of_join hrel hjoin
    exact ((relative_error_iff e).mp he).2.elim (fun hne => hne hroot) hpast
  · cases h : relative base target with
    | ok path => exact absurd (hleads path h).1 (hnone path (hleads path h).2.1)
    | error e => exact ⟨e, rfl⟩
  · rw [components_clean, components_clean]
    exact relative_error_iff e

example : (relative "a/b" "../c").toOption = some "../../../c" ∧
    (relative "../a" "../..").toOption = some "../.." ∧
    (relative "../a" "b").toOption = none := by decide +kernel

end
end GuestLint.Path
