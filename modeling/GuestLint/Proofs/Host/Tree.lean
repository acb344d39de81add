import Mathlib.Data.List.Nodup
import Mathlib.Data.List.Perm.Subperm
import GuestLint.Host.Tree

/-!
# Walks through a host tree

A walk that has more segments to go than some first ones is a walk over these, which must end in a
directory, and a walk from there over the others. So whoever finds an entry behind a path has found
a directory at the path, and the first name behind it among the directory's entries.

* `walk_append`: a walk over more segments.
* `walk_follows`, `locate_follows`: a link at the end is all that the two kinds of walks differ in.
* `walk_stands`: a walk that ends in a directory has come there through directories.
* `Stands.length_le`: no directory lies deeper than there are entries.
* `entry_of_walk`, `walk_at`: the first name of a walk is an entry, and what the walk finds there.
* `mem_children`: the names in a directory.
-/
namespace GuestLint.Host.Tree

variable {t : Tree} {last : Bool} {links : Nat} {dir : Location} {name : String}
  {rest : List String}

/-! ## One step -/

theorem walk_skip (h : name = "" ∨ name = ".") :
    t.walk last links dir (name :: rest) = t.walk last links dir rest := by
  rw [walk, if_pos h]

theorem walk_up : t.walk last links dir (".." :: rest) = t.walk last links dir.dropLast rest := by
  rw [walk, if_neg (by decide), if_pos rfl]

section
variable (hskip : ¬ (name = "" ∨ name = ".")) (hup : name ≠ "..")

include hskip hup

theorem walk_long (h : maxName < name.utf8ByteSize) :
    t.walk last links dir (name :: rest) = .error .nameTooLong := by
  rw [walk, if_neg hskip, if_neg hup, if_pos h]

variable (hlong : ¬ maxName < name.utf8ByteSize)

include hlong

theorem walk_missing (h : t.entry? (dir ++ [name]) = none) :
    t.walk last links dir (name :: rest) = .error .missing := by
  rw [walk, if_neg hskip, if_neg hup, if_neg hlong, h]

theorem walk_enter (h : t.entry? (dir ++ [name]) = some .directory) :
    t.walk last links dir (name :: rest) = t.walk last links (dir ++ [name]) rest := by
  rw [walk, if_neg hskip, if_neg hup, if_neg hlong, h]

variable {target : String}

theorem walk_exhausted (h : t.entry? (dir ++ [name]) = some (.link target)) :
    t.walk true 0 dir (name :: rest) = .error .tooManyLinks := by
  rw [walk, if_neg hskip, if_neg hup, if_neg hlong, h]
  simp

theorem walk_nowhere (h : t.entry? (dir ++ [name]) = some (.link "")) :
    t.walk true (links + 1) dir (name :: rest) = .error .missing := by
  rw [walk, if_neg hskip, if_neg hup, if_neg hlong, h]
  simp

theorem walk_follow (h : t.entry? (dir ++ [name]) = some (.link target)) (htarget : target ≠ "") :
    t.walk true (links + 1) dir (name :: rest) =
      t.walk true links (if Path.isAbsolute target then [] else dir)
        (Path.segments target ++ rest) := by
  rw [walk, if_neg hskip, if_neg hup, if_neg hlong, h]
  simp [htarget]

theorem walk_file {content : Bytes} (h : t.entry? (dir ++ [name]) = some (.file content)) :
    t.walk last links dir [name] = .ok (dir ++ [name], .file content) := by
  rw [walk, if_neg hskip, if_neg hup, if_neg hlong, h]
  exact if_pos rfl

theorem walk_blocked {entry : Entry} (h : t.entry? (dir ++ [name]) = some entry)
    (hdirectory : entry ≠ .directory) (hlink : ∀ target, entry ≠ .link target) (hrest : rest ≠ []) :
    t.walk last links dir (name :: rest) = .error .notDirectory := by
  rw [walk, if_neg hskip, if_neg hup, if_neg hlong, h]
  cases entry with
  | directory => exact absurd rfl hdirectory
  | link target => exact absurd rfl (hlink target)
  | _ => exact if_neg hrest

end

/-! ## More segments -/

/-- A walk over some segments comes to a directory, and goes on from there whatever follows; or
nothing that follows lets it succeed. -/
theorem walk_append (t : Tree) (links : Nat) (dir : Location) (todo : List String) :
    (∃ location left, t.walk true links dir todo = .ok (location, .directory) ∧
      ∀ more, t.walk true links dir (todo ++ more) = t.walk true left location more) ∨
    ∀ more, more ≠ [] → ∀ found, t.walk true links dir (todo ++ more) ≠ .ok found := by
  have herror : ∀ {x : Except Failure (Location × Entry)} {e}, x = .error e →
      ∀ found, x ≠ .ok found := fun h found h' => by cases h.symm.trans h'
  induction links, dir, todo using walk.induct t true with
  | case1 links dir => exact .inl ⟨dir, links, by rw [walk], fun _ => rfl⟩
  | case2 links dir name rest hskip ih =>
    simp only [List.cons_append, walk_skip hskip]
    exact ih
  | case3 links dir rest _ ih =>
    simp only [List.cons_append, walk_up]
    exact ih
  | case4 links dir name rest hskip hup hlong =>
    exact .inr fun more _ => herror (walk_long hskip hup hlong)
  | case5 links dir name rest hskip hup hlong hentry =>
    exact .inr fun more _ => herror (walk_missing hskip hup hlong hentry)
  | case6 links dir name rest hskip hup hlong hentry ih =>
    simp only [List.cons_append, walk_enter hskip hup hlong hentry]
    exact ih
  | case7 links dir name rest _ _ _ target _ hlast => exact absurd hlast.2 (by decide)
  | case8 dir name rest hskip hup hlong target hentry =>
    exact .inr fun more _ => herror (walk_exhausted hskip hup hlong hentry)
  | case9 dir name rest hskip hup hlong _ links hentry =>
    exact .inr fun more _ => herror (walk_nowhere hskip hup hlong hentry)
  | case10 dir name rest hskip hup hlong target hentry _ links htarget ih =>
    simp only [dite_eq_ite] at ih
    simp only [List.cons_append, walk_follow hskip hup hlong hentry htarget, ← List.append_assoc]
    exact ih
  | case11 links dir name hskip hup hlong entry hdirectory hlink hentry =>
    exact .inr fun more hmore =>
      herror (walk_blocked hskip hup hlong hentry hdirectory hlink hmore)
  | case12 links dir name rest hskip hup hlong entry hdirectory hlink hentry hrest =>
    exact .inr fun more _ => herror (walk_blocked hskip hup hlong hentry hdirectory hlink
      (List.append_ne_nil_of_left_ne_nil hrest more))

/-! ## Links at the end -/

/-- What a walk finds without following a link at its end, it finds when it follows links as well,
unless what it has found is a link. -/
theorem walk_follows {todo : List String} {found : Location × Entry}
    (hfound : ∀ target, found.2 ≠ .link target) (h : t.walk false links dir todo = .ok found) :
    t.walk true links dir todo = .ok found := by
  induction links, dir, todo using walk.induct t false with
  | case1 links dir =>
    rw [walk] at h ⊢
    exact h
  | case2 links dir name rest hskip ih =>
    rw [walk_skip hskip] at h ⊢
    exact ih h
  | case3 links dir rest _ ih =>
    rw [walk_up] at h ⊢
    exact ih h
  | case4 links dir name rest hskip hup hlong => cases (walk_long hskip hup hlong).symm.trans h
  | case5 links dir name rest hskip hup hlong hentry =>
    cases (walk_missing hskip hup hlong hentry).symm.trans h
  | case6 links dir name rest hskip hup hlong hentry ih =>
    rw [walk_enter hskip hup hlong hentry] at h ⊢
    exact ih h
  | case7 links dir name rest hskip hup hlong target hentry hlast =>
    rw [walk, if_neg hskip, if_neg hup, if_neg hlong, hentry] at h
    cases (if_pos hlast).symm.trans h
    exact absurd rfl (hfound target)
  | case8 dir name rest hskip hup hlong target hentry hlast =>
    rw [walk, if_neg hskip, if_neg hup, if_neg hlong, hentry] at h
    cases (if_neg hlast).symm.trans h
  | case9 dir name rest hskip hup hlong hlast links hentry =>
    have hrest : rest ≠ [] := fun hrest => hlast ⟨hrest, rfl⟩
    rw [walk, if_neg hskip, if_neg hup, if_neg hlong, hentry] at h
    simp only [hrest, false_and, if_false, if_true] at h
    cases h
  | case10 dir name rest hskip hup hlong target hentry hlast links htarget ih =>
    have hrest : rest ≠ [] := fun hrest => hlast ⟨hrest, rfl⟩
    rw [walk, if_neg hskip, if_neg hup, if_neg hlong, hentry] at h
    simp only [hrest, false_and, if_false, htarget] at h
    rw [walk_follow hskip hup hlong hentry htarget]
    simp only [dite_eq_ite] at ih
    exact ih h
  | case11 links dir name hskip hup hlong entry hdirectory hlink hentry =>
    rw [walk, if_neg hskip, if_neg hup, if_neg hlong, hentry] at h ⊢
    cases entry with
    | directory => exact absurd rfl hdirectory
    | link target => exact absurd rfl (hlink target)
    | _ => exact h
  | case12 links dir name rest hskip hup hlong entry hdirectory hlink hentry hrest =>
    cases (walk_blocked hskip hup hlong hentry hdirectory hlink hrest).symm.trans h

/-! ## Paths -/

theorem locate_of_walk {path : String} (hnul : ¬ path.toList.contains (Char.ofNat 0))
    (hne : path ≠ "") (hlong : ¬ maxPath < path.utf8ByteSize) (hstart : t.start path = some dir) :
    t.locate true path = t.walk true maxLinks dir (Path.segments path) := by
  rw [locate, if_neg hnul, if_neg hne, if_neg hlong, hstart]

/-- A path text is refused, or walked from its start; links at the end play no part in that. -/
theorem locate_cases (t : Tree) (path : String) :
    (∃ e, ∀ last, t.locate last path = .error e) ∨
      path ≠ "" ∧ ∃ dir, t.start path = some dir ∧
        ∀ last, t.locate last path = t.walk last maxLinks dir (Path.segments path) := by
  unfold locate
  by_cases hnul : path.toList.contains (Char.ofNat 0)
  · exact .inl ⟨_, fun _ => if_pos hnul⟩
  · by_cases hne : path = ""
    · exact .inl ⟨_, fun _ => (if_neg hnul).trans (if_pos hne)⟩
    · by_cases hlong : maxPath < path.utf8ByteSize
      · exact .inl ⟨_, fun _ => (if_neg hnul).trans ((if_neg hne).trans (if_pos hlong))⟩
      · simp only [if_neg hnul, if_neg hne, if_neg hlong]
        cases t.start path with
        | none => exact .inl ⟨_, fun _ => rfl⟩
        | some dir => exact .inr ⟨hne, dir, rfl, fun _ => rfl⟩

/-- A path that leads somewhere is walked from its start. -/
theorem walk_of_locate {path : String} {found : Location × Entry}
    (h : t.locate last path = .ok found) :
    path ≠ "" ∧ ∃ dir, t.start path = some dir ∧
      t.walk last maxLinks dir (Path.segments path) = .ok found := by
  rcases t.locate_cases path with ⟨e, hrefused⟩ | ⟨hne, dir, hstart, hwalk⟩
  · cases (hrefused last).symm.trans h
  · exact ⟨hne, dir, hstart, (hwalk last).symm.trans h⟩

/-- What a path leads to without following a link at its end, it leads to when links are followed
as well, unless it is a link. -/
theorem locate_follows {path : String} {found : Location × Entry}
    (hfound : ∀ target, found.2 ≠ .link target) (h : t.locate false path = .ok found) :
    t.locate true path = .ok found := by
  rcases t.locate_cases path with ⟨e, hrefused⟩ | ⟨-, dir, -, hwalk⟩
  · cases (hrefused false).symm.trans h
  · rw [hwalk] at h ⊢
    exact walk_follows hfound h

/-! ## Directories -/

/-- A directory, as is every location above it. -/
def Stands (t : Tree) (dir : Location) : Prop := ∀ n, t.entry? (dir.take n) = some .directory

theorem stands_root (t : Tree) : t.Stands [] := fun n => by
  rw [List.take_nil]
  exact if_pos rfl

theorem Stands.dropLast (h : t.Stands dir) : t.Stands dir.dropLast := fun n => by
  rw [List.dropLast_eq_take, List.take_take]
  exact h _

theorem Stands.enter (h : t.Stands dir) (hentry : t.entry? (dir ++ [name]) = some .directory) :
    t.Stands (dir ++ [name]) := fun n => by
  by_cases hn : n ≤ dir.length
  · rw [List.take_append_of_le_length hn]
    exact h n
  · rw [List.take_of_length_le (by simp; omega)]
    exact hentry

/-- A directory that stands is the root or has an entry. -/
theorem Stands.mem (h : t.Stands dir) : dir ∈ [] :: t.entries.map Prod.fst := by
  have hdir := h dir.length
  rw [List.take_length, entry?] at hdir
  split at hdir
  · rename_i hroot
    exact hroot ▸ List.mem_cons_self
  · obtain ⟨front, after, heq, -⟩ := List.lookup_eq_some_iff.mp hdir
    exact List.mem_cons_of_mem _ (List.mem_map.mpr ⟨(dir, .directory), by rw [heq]; simp, rfl⟩)

/-- A directory that stands lies no deeper than there are entries. -/
theorem Stands.length_le (h : t.Stands dir) : dir.length ≤ t.entries.length := by
  let above := (List.range dir.length).map fun n => dir.take (n + 1)
  have hnodup : above.Nodup := by
    refine List.Nodup.map_on (fun n hn k hk heq => ?_) List.nodup_range
    have hlength := congrArg List.length heq
    rw [List.mem_range] at hn hk
    simp only [List.length_take] at hlength
    omega
  have hsubset : above ⊆ t.entries.map Prod.fst := by
    intro location hlocation
    obtain ⟨n, hn, rfl⟩ := List.mem_map.mp hlocation
    have hstands : t.Stands (dir.take (n + 1)) := fun k => by
      rw [List.take_take]
      exact h _
    have hne : dir.take (n + 1) ≠ [] := by
      rw [List.mem_range] at hn
      exact List.ne_nil_of_length_pos (by rw [List.length_take]; omega)
    exact (List.mem_cons.mp hstands.mem).resolve_left hne
  simpa [above] using (hnodup.subperm hsubset).length_le

/-- A walk from a directory that stands ends in one, if it ends in a directory. -/
theorem walk_stands {todo : List String} {location : Location} (hdir : t.Stands dir)
    (h : t.walk true links dir todo = .ok (location, .directory)) : t.Stands location := by
  induction links, dir, todo using walk.induct t true with
  | case1 links dir =>
    rw [walk] at h
    cases h
    exact hdir
  | case2 links dir name rest hskip ih => exact ih hdir (walk_skip hskip ▸ h)
  | case3 links dir rest _ ih => exact ih hdir.dropLast (walk_up ▸ h)
  | case4 links dir name rest hskip hup hlong => cases (walk_long hskip hup hlong).symm.trans h
  | case5 links dir name rest hskip hup hlong hentry =>
    cases (walk_missing hskip hup hlong hentry).symm.trans h
  | case6 links dir name rest hskip hup hlong hentry ih =>
    exact ih (hdir.enter hentry) (walk_enter hskip hup hlong hentry ▸ h)
  | case7 links dir name rest _ _ _ target _ hlast => exact absurd hlast.2 (by decide)
  | case8 dir name rest hskip hup hlong target hentry =>
    cases (walk_exhausted hskip hup hlong hentry).symm.trans h
  | case9 dir name rest hskip hup hlong _ links hentry =>
    cases (walk_nowhere hskip hup hlong hentry).symm.trans h
  | case10 dir name rest hskip hup hlong target hentry _ links htarget ih =>
    rw [walk_follow hskip hup hlong hentry htarget] at h
    refine ih ?_ h
    split
    · exact t.stands_root
    · exact hdir
  | case11 links dir name hskip hup hlong entry hdirectory hlink hentry =>
    rw [walk, if_neg hskip, if_neg hup, if_neg hlong, hentry] at h
    cases entry with
    | directory => exact absurd rfl hdirectory
    | link target => exact absurd rfl (hlink target)
    | _ => cases (if_pos rfl).symm.trans h
  | case12 links dir name rest hskip hup hlong entry hdirectory hlink hentry hrest =>
    cases (walk_blocked hskip hup hlong hentry hdirectory hlink hrest).symm.trans h

/-- Paths lead to directories that stand, wherever they start. -/
theorem stands_of_locate (hcurrent : ∀ dir, t.current = some dir → t.Stands dir) {path : String}
    {location : Location} (h : t.locate true path = .ok (location, .directory)) :
    t.Stands location := by
  obtain ⟨-, dir, hstart, hwalk⟩ := walk_of_locate h
  refine walk_stands ?_ hwalk
  unfold start at hstart
  split at hstart
  · cases hstart
    exact t.stands_root
  · exact hcurrent dir hstart

/-! ## Entries -/

/-- A walk that succeeds has found an entry for its first name. -/
theorem entry_of_walk (hskip : ¬ (name = "" ∨ name = ".")) (hup : name ≠ "..")
    {found : Location × Entry} (h : t.walk true links dir (name :: rest) = .ok found) :
    ∃ entry, t.entry? (dir ++ [name]) = some entry := by
  cases hentry : t.entry? (dir ++ [name]) with
  | some entry => exact ⟨entry, rfl⟩
  | none =>
    by_cases hlong : maxName < name.utf8ByteSize
    · cases (walk_long hskip hup hlong).symm.trans h
    · cases (walk_missing hskip hup hlong hentry).symm.trans h

/-- A walk that comes to a name without a link at it ends there, unless the name is a directory's. -/
theorem walk_at {entry : Entry} (hskip : ¬ (name = "" ∨ name = ".")) (hup : name ≠ "..")
    (hentry : t.entry? (dir ++ [name]) = some entry) (hlink : entry.isLink = false)
    {found : Location × Entry} (h : t.walk true links dir (name :: rest) = .ok found) :
    (rest = [] → found = (dir ++ [name], entry)) ∧ (rest ≠ [] → entry = .directory) := by
  by_cases hlong : maxName < name.utf8ByteSize
  · cases (walk_long hskip hup hlong).symm.trans h
  by_cases hdirectory : entry = .directory
  · subst hdirectory
    refine ⟨?_, fun _ => rfl⟩
    rintro rfl
    rw [walk_enter hskip hup hlong hentry, walk] at h
    exact (Except.ok.inj h).symm
  · have hnolink : ∀ target, entry ≠ .link target := by
      rintro target rfl
      cases hlink
    have hrest : rest = [] := by
      by_contra hrest
      cases (walk_blocked hskip hup hlong hentry hdirectory hnolink hrest).symm.trans h
    subst hrest
    refine ⟨fun _ => ?_, fun hne => absurd rfl hne⟩
    rw [walk, if_neg hskip, if_neg hup, if_neg hlong, hentry] at h
    cases entry with
    | directory => exact absurd rfl hdirectory
    | link target => exact absurd rfl (hnolink target)
    | _ => exact (Except.ok.inj h).symm

/-- The names in a directory are those with an entry behind it. -/
theorem mem_children : name ∈ t.children dir ↔ ∃ entry, (dir ++ [name], entry) ∈ t.entries := by
  unfold children
  rw [List.mem_filterMap]
  constructor
  · rintro ⟨⟨location, entry⟩, hmem, h⟩
    dsimp only at h
    split at h
    · rename_i last parent hreverse
      split at h
      · rename_i hparent
        cases h
        have hlocation : location = dir ++ [name] := by
          rw [← List.reverse_reverse location, hreverse, List.reverse_cons, hparent]
        exact ⟨entry, hlocation ▸ hmem⟩
      · cases h
    · cases h
  · rintro ⟨entry, hmem⟩
    refine ⟨_, hmem, ?_⟩
    simp

theorem mem_children_of_entry {entry : Entry} (h : t.entry? (dir ++ [name]) = some entry) :
    name ∈ t.children dir := by
  unfold entry? at h
  rw [if_neg (by simp)] at h
  obtain ⟨front, after, heq, -⟩ := List.lookup_eq_some_iff.mp h
  exact mem_children.mpr ⟨entry, heq ▸ List.mem_append_right front List.mem_cons_self⟩

end GuestLint.Host.Tree
