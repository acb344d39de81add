import GuestLint.Virtual.Snapshot
import GuestLint.Proofs.Host.Tree
import GuestLint.Proofs.Path.Relative
import GuestLint.Proofs.Virtual.Confinement
import GuestLint.Proofs.Virtual.Consistency

/-!
# A snapshot of a directory and a view of it

A snapshot has walked the whole directory and stored each regular file under the names that led to
it; a view asks the host for the root extended by names, each time anew. Both lead through the same
path texts: what the walk has met at the names is what the view finds there. The walk misses nothing,
since whoever finds an entry behind a path has found the first name behind it among the entries of a
directory at the path.

* `locate_below`, `locate_child`: what is found behind a path that has been located.
* `Part`: files in memory that are all files below the root; `Part.insert`.
* `copy_spec`: a copy stores files of the directory only, and all of them.
* `copy_deeper`: no copy comes to the bound on its depth.
* `snapshot_agrees`: reads and inspections of the snapshot and of the view.
-/
namespace GuestLint.Virtual

open GuestLint.Path (segments unsegment render clean isAbsolute IsName)
open Host (Tree Entry Location Failure extend)

/-! ## Behind a path -/

/-- A path and the start of what lies behind it have the same segments, but for an empty one that
stands for a separator at the end. -/
theorem stem_segments {path : String} (hne : path ≠ "") :
    ∃ front, stem path = front ++ "/" ∧
      (segments path = segments front ∨ segments path = segments front ++ [""]) := by
  unfold stem
  by_cases hlast : path.toList.getLast? = some '/'
  · rw [if_pos (.inr hlast)]
    obtain ⟨front, hfront⟩ := List.getLast?_eq_some_iff.mp hlast
    have hpath : path = String.ofList front ++ "/" := by
      apply String.toList_inj.mp
      rw [hfront, String.toList_append, String.toList_ofList]
      rfl
    refine ⟨String.ofList front, hpath, .inr ?_⟩
    have hsegments := Path.segments_append (String.ofList front) ""
    rw [String.append_empty, Path.segments_empty, ← hpath] at hsegments
    exact hsegments
  · rw [if_neg (not_or.mpr ⟨hne, hlast⟩)]
    exact ⟨path, rfl, .inl rfl⟩

theorem stem_eq_append (path : String) : ∃ separator, stem path = path ++ separator := by
  unfold stem
  split
  · exact ⟨"", (String.append_empty).symm⟩
  · exact ⟨"/", rfl⟩

/-- Behind a path that leads somewhere there are entries only if it leads to a directory, and they
are found from there. -/
theorem locate_below {t : Tree} {path name : String} {names : List String}
    (hnames : AreNames (name :: names)) {location : Location} {entry : Entry}
    (hpath : t.locate true path = .ok (location, entry)) {found : Location × Entry}
    (hbelow : t.locate true ((name :: names).foldl extend path) = .ok found) :
    entry = .directory ∧ ∃ links, t.walk true links location (name :: names) = .ok found := by
  obtain ⟨hne, dir, hstart, hwalk⟩ := Tree.walk_of_locate hpath
  obtain ⟨-, dir', hstart', hwalk'⟩ := Tree.walk_of_locate hbelow
  obtain ⟨front, hstem, hfront⟩ := stem_segments hne
  have hplace : (name :: names).foldl extend path = stem path ++ unsegment (name :: names) :=
    foldl_extend path hnames (by simp)
  have hsegments : segments ((name :: names).foldl extend path) =
      segments front ++ (name :: names) := by
    rw [hplace, hstem, Path.segments_append, Path.segments_unsegment (by simp)
      fun part hp => (hnames part hp).2]
  have hroot : isAbsolute ((name :: names).foldl extend path) = isAbsolute path := by
    obtain ⟨separator, hseparator⟩ := stem_eq_append path
    rw [hplace, hseparator, String.append_assoc, Path.isAbsolute_append hne]
  have hdir : dir' = dir := by
    unfold Tree.start at hstart hstart'
    rw [hroot] at hstart'
    exact Option.some.inj (hstart'.symm.trans hstart)
  rw [hsegments, hdir] at hwalk'
  rcases t.walk_append Tree.maxLinks dir (segments front) with ⟨place, left, hplace, hmore⟩ | hnone
  · have hreached : t.walk true Tree.maxLinks dir (segments path) = .ok (place, .directory) := by
      rcases hfront with hfront | hfront
      · rw [hfront, hplace]
      · rw [hfront, hmore, Tree.walk_skip (.inl rfl), Tree.walk]
    cases hwalk.symm.trans hreached
    exact ⟨rfl, left, (hmore _).symm.trans hwalk'⟩
  · exact absurd hwalk' (hnone _ (by simp) found)

/-- The first name behind a directory is one of those in it. -/
theorem name_below {t : Tree} {path name : String} {names : List String}
    (hnames : AreNames (name :: names)) {location : Location}
    (hpath : t.locate true path = .ok (location, .directory)) {found : Location × Entry}
    (hbelow : t.locate true ((name :: names).foldl extend path) = .ok found) :
    name ∈ t.children location := by
  obtain ⟨-, links, hwalk⟩ := locate_below hnames hpath hbelow
  have hname := (hnames name List.mem_cons_self).1
  obtain ⟨entry, hentry⟩ := Tree.entry_of_walk
    (not_or.mpr ⟨hname.ne_empty, hname.ne_dot⟩) hname.ne_up hwalk
  exact Tree.mem_children_of_entry hentry

/-- Where a directory has no link at a name, what is found there is what it has, and something is
found behind it only in a directory. -/
theorem locate_child {t : Tree} {path name : String} {names : List String}
    (hnames : AreNames (name :: names)) {location : Location} {entry : Entry}
    (hpath : t.locate true path = .ok (location, .directory))
    (hentry : t.entry? (location ++ [name]) = some entry) (hlink : entry.isLink = false)
    {found : Location × Entry} (hbelow : t.locate true ((name :: names).foldl extend path) = .ok found) :
    (names = [] → found = (location ++ [name], entry)) ∧ (names ≠ [] → entry = .directory) := by
  obtain ⟨-, links, hwalk⟩ := locate_below hnames hpath hbelow
  have hname := (hnames name List.mem_cons_self).1
  exact Tree.walk_at (not_or.mpr ⟨hname.ne_empty, hname.ne_dot⟩) hname.ne_up hentry hlink hwalk

/-! ## Files below a root -/

/-- The names of a tree's entries can be spelled in a path. -/
def WellNamed (t : Tree) : Prop := ∀ entry ∈ t.entries, AreNames entry.1

/-- A regular file is found at some names below a root. -/
def FileAt (t : Tree) (root : String) (names : List String) (content : Bytes) : Prop :=
  ∃ location, t.locate true (names.foldl extend root) = .ok (location, .file content)

variable {t : Tree} {root : String} {m m' : Memory} {names : List String} {content : Bytes}

theorem WellNamed.name (ht : WellNamed t) {location : Location} {name : String}
    (h : name ∈ t.children location) : AreNames [name] := by
  obtain ⟨entry, hmem⟩ := Tree.mem_children.mp h
  exact (ht _ hmem).right

theorem FileAt.unique {content' : Bytes} (h : FileAt t root names content)
    (h' : FileAt t root names content') : content' = content := by
  obtain ⟨location, h⟩ := h
  obtain ⟨location', h'⟩ := h'
  cases h.symm.trans h'
  rfl

/-- Files in memory that are all files below a root, each under its names. -/
structure Part (t : Tree) (root : String) (m : Memory) : Prop where
  sound : m.Sound
  files : ∀ key content, m.Holds key content →
    ∃ names, AreNames names ∧ key = render false names ∧ FileAt t root names content

/-- Nothing is lost. -/
def Memory.Grows (m m' : Memory) : Prop := ∀ key content, m.Holds key content → m'.Holds key content

theorem clean_keyOf (h : AreNames names) : clean (keyOf names) = render false names := by
  have hreduced : Path.IsReduced false names :=
    Path.isReduced_names false fun part hp => (h part hp).1
  by_cases hne : names = []
  · subst hne
    decide
  · rw [keyOf, ← Path.render_unrooted hne, Path.clean_render hreduced h.solid]

/-- A file that is found below the root is stored under its names. -/
theorem Part.insert (hm : Part t root m) (hnames : AreNames names)
    (hfile : FileAt t root names content) (hins : m.insert (keyOf names) content = .ok m') :
    Part t root m' ∧ m.Grows m' ∧ m'.Holds (render false names) content := by
  have hput : m.put (keyOf names, content) = m' := by
    unfold Memory.put
    rw [hins]
  have hvalid : isValid (render false names) = true := (isValid_iff _).mpr ⟨names, hnames, rfl⟩
  have hholds : ∀ key body, m'.Holds key body ↔
      if key = render false names then body = content else m.Holds key body := by
    intro key body
    have hiff := Memory.holds_put hm.sound (keyOf names) content key body
    rw [hput, clean_keyOf hnames] at hiff
    by_cases hkey : key = render false names
    · subst hkey
      simpa [hvalid] using hiff
    · simpa [hkey] using hiff
  have hnew : m'.Holds (render false names) content := by
    rw [hholds, if_pos rfl]
  refine ⟨⟨hm.sound.insert hins, fun key body h => ?_⟩, fun key body h => ?_, hnew⟩
  · rw [hholds] at h
    split at h
    · rename_i hkey
      exact ⟨names, hnames, hkey, h ▸ hfile⟩
    · exact hm.files key body h
  · by_cases hkey : key = render false names
    · -- the key says the names, and the host has one content there
      obtain ⟨names', hnames', hspelled, hfile'⟩ := hm.files key body h
      rw [hkey] at hspelled
      obtain rfl := ((Path.render_inj hnames.solid hnames'.solid).mp hspelled).2
      rw [hholds, if_pos hkey]
      exact hfile.unique hfile'
    · rw [hholds, if_neg hkey]
      exact h

/-! ## Copies -/

/-- A copy from some names on stores files that are found below the root only, and all that are
found behind these names. -/
structure Copied (t : Tree) (root : String) (names : List String) (m m' : Memory) : Prop where
  part : Part t root m'
  grows : m.Grows m'
  complete : ∀ more content, AreNames (names ++ more) → FileAt t root (names ++ more) content →
    m'.Holds (render false (names ++ more)) content

/-- The children of a directory are copied one after the other. -/
theorem copied_all {f : Memory → String → Except SnapshotError Memory} {children : List String}
    (hf : ∀ child ∈ children, ∀ m m', Part t root m → f m child = .ok m' →
      Copied t root (names ++ [child]) m m')
    (hm : Part t root m) (hrun : children.foldlM f m = .ok m') :
    Part t root m' ∧ m.Grows m' ∧ ∀ child ∈ children, ∀ more content,
      AreNames (names ++ child :: more) → FileAt t root (names ++ child :: more) content →
        m'.Holds (render false (names ++ child :: more)) content := by
  induction children generalizing m with
  | nil =>
    cases hrun
    exact ⟨hm, fun _ _ h => h, by simp⟩
  | cons child children ih =>
    rw [List.foldlM_cons] at hrun
    cases hfirst : f m child with
    | error e =>
      rw [hfirst] at hrun
      cases hrun
    | ok m₁ =>
      rw [hfirst] at hrun
      have hcopied := hf child List.mem_cons_self m m₁ hm hfirst
      obtain ⟨hpart, hgrows, hcomplete⟩ :=
        ih (fun other hother => hf other (List.mem_cons_of_mem _ hother)) hcopied.part hrun
      refine ⟨hpart, fun key body h => hgrows key body (hcopied.grows key body h), ?_⟩
      intro other hother more body hnames hfile
      rcases List.mem_cons.mp hother with rfl | hother
      · have happend : names ++ other :: more = names ++ [other] ++ more := by simp
        rw [happend] at hnames hfile ⊢
        exact hgrows _ _ (hcopied.complete more body hnames hfile)
      · exact hcomplete other hother more body hnames hfile

/-- Behind an entry that is no directory nothing is found. -/
theorem nothing_below {location : Location} {entry : Entry}
    (hlocate : t.locate true (names.foldl extend root) = .ok (location, entry))
    (hentry : entry ≠ .directory) {more : List String} (hmore : AreNames (names ++ more))
    (hfile : FileAt t root (names ++ more) content) : more = [] := by
  obtain ⟨place, hfile⟩ := hfile
  cases more with
  | nil => rfl
  | cons name more =>
    rw [List.foldl_append] at hfile
    exact absurd (locate_below hmore.right hlocate hfile).1 hentry

/-- What a directory has at some names is what is found there: no file but itself, unless it is a
directory or a link. -/
def Listed (t : Tree) (root : String) (names : List String) (listed : Option Entry) : Prop :=
  ∀ entry, listed = some entry → entry ≠ .directory → entry.isLink = false →
    ∀ more content, AreNames (names ++ more) → FileAt t root (names ++ more) content →
      entry = .file content

/-- A directory lists what is found at its names. -/
theorem listed_child {location : Location} {name : String}
    (hlocate : t.locate true (names.foldl extend root) = .ok (location, .directory)) :
    Listed t root (names ++ [name]) (t.entry? (location ++ [name])) := by
  intro entry hentry hdirectory hlink more content hmore hfile
  obtain ⟨place, hplace⟩ := hfile
  rw [List.append_assoc] at hmore hplace
  rw [List.foldl_append] at hplace
  obtain ⟨hlast, hbehind⟩ := locate_child hmore.right hlocate hentry hlink hplace
  have hnone : more = [] := by
    by_contra hne
    exact hdirectory (hbehind hne)
  exact (Prod.mk.inj (hlast hnone)).2.symm

/-- What is left out unseen is no file. -/
theorem unlocated_ok {path : String} {listed : Option Entry} {e : Failure}
    (h : unlocated m path listed e = .ok m') : m' = m ∧ ∃ entry, listed = some entry ∧
      entry ≠ .directory ∧ entry.isLink = false ∧ ∀ content, entry ≠ .file content := by
  unfold unlocated at h
  split at h <;> cases h
  all_goals exact ⟨rfl, _, rfl, nofun, rfl, nofun⟩

/-- **Copies.** A copy that succeeds stores what is found below the root, and misses nothing behind
its names. -/
theorem copy_spec (ht : WellNamed t) {depth : Nat} {listed : Option Entry} {above : List Ancestor}
    (hnames : AreNames names) (hlisted : Listed t root names listed) (hm : Part t root m)
    (hcopy : copy t m depth (names.foldl extend root) names listed above = .ok m') :
    Copied t root names m m' := by
  induction depth generalizing names listed above m m' with
  | zero => cases hcopy
  | succ depth ih =>
    unfold copy at hcopy
    split at hcopy
    · -- what is left out is listed as no file
      obtain ⟨rfl, entry, hentry, hdirectory, hlink, hfile⟩ := unlocated_ok hcopy
      refine ⟨hm, fun _ _ h => h, fun more content hmore hbelow => ?_⟩
      exact absurd (hlisted entry hentry hdirectory hlink more content hmore hbelow) (hfile content)
    · -- a file is stored
      rename_i location body hlocate
      split at hcopy
      · rename_i hins
        cases hcopy
        obtain ⟨hpart, hgrows, hnew⟩ := hm.insert hnames ⟨location, hlocate⟩ hins
        refine ⟨hpart, hgrows, fun more content hmore hfile => ?_⟩
        obtain rfl := nothing_below hlocate (by simp) hmore hfile
        rw [List.append_nil] at hfile ⊢
        obtain rfl := FileAt.unique ⟨location, hlocate⟩ hfile
        exact hnew
      · cases hcopy
    · -- the children of a directory are copied
      rename_i location hlocate
      split at hcopy
      · cases hcopy
      · have hchild : ∀ name ∈ t.children location, ∀ m m', Part t root m →
            copy t m depth (extend (names.foldl extend root) name) (names ++ [name])
              (t.entry? (location ++ [name])) (⟨names.foldl extend root, location⟩ :: above) =
                .ok m' →
            Copied t root (names ++ [name]) m m' := by
          intro name hchild m m' hm hrun
          have hpath : extend (names.foldl extend root) name =
              (names ++ [name]).foldl extend root := by rw [List.foldl_append]; rfl
          rw [hpath] at hrun
          exact ih (hnames.append (ht.name hchild)) (listed_child hlocate) hm hrun
        obtain ⟨hpart, hgrows, hcomplete⟩ := copied_all hchild hm hcopy
        refine ⟨hpart, hgrows, fun more content hmore hfile => ?_⟩
        obtain ⟨place, hplace⟩ := hfile
        cases more with
        | nil =>
          rw [List.append_nil] at hplace
          cases hlocate.symm.trans hplace
        | cons name more =>
          have hbelow := hplace
          rw [List.foldl_append] at hbelow
          have hmem := name_below hmore.right hlocate hbelow
          exact hcomplete _ hmem more content hmore ⟨place, hplace⟩
    · -- any other entry is left out
      rename_i found hfile hdirectory hlocate
      cases hcopy
      obtain ⟨location, entry⟩ := found
      have hentry : entry ≠ .directory := fun heq => hdirectory location (by rw [heq])
      refine ⟨hm, fun _ _ h => h, fun more content hmore hbelow => ?_⟩
      obtain rfl := nothing_below hlocate hentry hmore hbelow
      rw [List.append_nil] at hbelow
      obtain ⟨place, hplace⟩ := hbelow
      exact (hfile _ content (Except.ok.inj (hlocate.symm.trans hplace))).elim

/-! ## The bound on the depth -/

/-- The directories that the links on the way of a copy have led to, and the root of the walk: they
are all different, each stands, and each is on the way. -/
structure Descent (t : Tree) (above : List Ancestor) (starts : List Location) : Prop where
  distinct : starts.Nodup
  stands : ∀ start ∈ starts, t.Stands start
  passed : ∀ start ∈ starts, ∃ a ∈ above, a.location = start

theorem Descent.pass {above : List Ancestor} {starts : List Location} (h : Descent t above starts)
    (a : Ancestor) : Descent t (a :: above) starts where
  distinct := h.distinct
  stands := h.stands
  passed start hstart := (h.passed start hstart).imp fun _ hb => hb.imp_left (List.mem_cons_of_mem a)

/-- A link that does not lead back leads to another directory. -/
theorem Descent.follow {above : List Ancestor} {starts : List Location} (h : Descent t above starts)
    (path : String) {location : Location} (hstands : t.Stands location)
    (hnew : above.find? (fun a => decide (a.location = location)) = none) :
    Descent t (⟨path, location⟩ :: above) (location :: starts) := by
  have hpass := h.pass ⟨path, location⟩
  refine ⟨List.nodup_cons.mpr ⟨fun hmem => ?_, h.distinct⟩,
    List.forall_mem_cons.mpr ⟨hstands, h.stands⟩,
    List.forall_mem_cons.mpr ⟨⟨_, List.mem_cons_self, rfl⟩, hpass.passed⟩⟩
  obtain ⟨a, ha, hlocation⟩ := h.passed location hmem
  exact List.find?_eq_none.mp hnew a ha (decide_eq_true hlocation)

/-- There are no more of them than directories in the tree. -/
theorem Descent.length_le {above : List Ancestor} {starts : List Location}
    (h : Descent t above starts) : starts.length ≤ t.entries.length + 1 := by
  have hsubset : starts ⊆ [] :: t.entries.map Prod.fst := fun start hstart =>
    (h.stands start hstart).mem
  simpa using (h.distinct.subperm hsubset).length_le

theorem foldlM_congr {α β ε : Type} {f g : β → α → Except ε β} {as : List α}
    (h : ∀ a ∈ as, ∀ b, f b a = g b a) (b : β) : as.foldlM f b = as.foldlM g b := by
  induction as generalizing b with
  | nil => rfl
  | cons a as ih =>
    rw [List.foldlM_cons, List.foldlM_cons, h a List.mem_cons_self]
    exact bind_congr fun b => ih (fun a ha => h a (List.mem_cons_of_mem _ ha)) b

/-- A directory that another one has in it lies one name further down, unless it is a link. -/
theorem length_of_child (ht : WellNamed t) {path name : String} {location place : Location}
    (hlocate : t.locate true path = .ok (location, .directory))
    (hname : name ∈ t.children location)
    (hlink : (t.entry? (location ++ [name])).all Entry.isLink = false)
    (hplace : t.locate true (extend path name) = .ok (place, .directory)) :
    place.length = location.length + 1 := by
  cases hentry : t.entry? (location ++ [name]) with
  | none =>
    rw [hentry] at hlink
    cases hlink
  | some entry =>
    rw [hentry] at hlink
    obtain ⟨hlast, -⟩ := locate_child (ht.name hname) hlocate hentry hlink hplace
    obtain ⟨rfl, -⟩ := Prod.mk.inj (hlast rfl)
    exact List.length_append

/-- A copy that has room for what may lie below it makes no use of more. Links may lead to any of
the directories that they have not led to before, and from each on `spare` bounds how far the way
goes down without a link. -/
theorem copy_succ (ht : WellNamed t) (hcurrent : ∀ dir, t.current = some dir → t.Stands dir)
    {depth : Nat} {above : List Ancestor} {starts : List Location} (hdescent : Descent t above starts)
    {path : String} {listed : Option Entry} {spare : Nat}
    (hspare : listed.all Entry.isLink = false → ∀ location,
      t.locate true path = .ok (location, .directory) →
        t.entries.length + 1 ≤ location.length + spare)
    (hroom : spare + (t.entries.length + 1 - starts.length) * (t.entries.length + 1) + 1 ≤ depth)
    (m : Memory) (names : List String) :
    copy t m (depth + 1) path names listed above = copy t m depth path names listed above := by
  induction depth generalizing above starts path listed spare m names with
  | zero => omega
  | succ depth ih =>
    rw [copy, copy]
    split
    · rfl
    · rfl
    · rename_i location hlocate
      have hstands := Tree.stands_of_locate hcurrent hlocate
      have hlength := hstands.length_le
      have hchild : ∀ spare', t.entries.length ≤ location.length + spare' →
          ∀ name ∈ t.children location, (t.entry? (location ++ [name])).all Entry.isLink = false →
          ∀ place, t.locate true (extend path name) = .ok (place, .directory) →
            t.entries.length + 1 ≤ place.length + spare' := by
        intro spare' hspare' name hname hlink place hplace
        rw [length_of_child ht hlocate hname hlink hplace]
        omega
      unfold wayBack
      by_cases hlinked : listed.all Entry.isLink
      · rw [if_pos hlinked]
        split
        · rfl
        · rename_i hnew
          have hfollow := hdescent.follow path hstands hnew
          have hfew := hfollow.length_le
          rw [List.length_cons] at hfew
          have hsplit : t.entries.length + 1 - starts.length =
              t.entries.length + 1 - (location :: starts).length + 1 := by
            rw [List.length_cons]
            omega
          rw [hsplit, Nat.succ_mul] at hroom
          refine foldlM_congr (fun name hname m => ?_) m
          exact ih hfollow (hchild (t.entries.length - location.length) (by omega) name hname)
            (by omega) m _
      · rw [if_neg hlinked]
        have hroom' := hspare (Bool.eq_false_iff.mpr hlinked) location hlocate
        refine foldlM_congr (fun name hname m => ?_) m
        exact ih (hdescent.pass _) (hchild (spare - 1) (by omega) name hname) (by omega) m _
    · rfl

/-- **Depth.** The bound on the depth of a copy decides nothing: with any higher bound a snapshot is
the same, also where it fails. -/
theorem copy_deeper (ht : WellNamed t) (hcurrent : ∀ dir, t.current = some dir → t.Stands dir)
    (root : String) (more : Nat) :
    copy t {} (maxDepth t + more) root [] none [] = Memory.ofDirectory t root := by
  induction more with
  | zero => rfl
  | succ more ih =>
    have hstart : Descent t [] [] := ⟨List.nodup_nil, by simp, by simp⟩
    have hroom : 0 + (t.entries.length + 1 - ([] : List Location).length) * (t.entries.length + 1) +
        1 ≤ maxDepth t + more := by
      rw [maxDepth, List.length_nil, Nat.sub_zero]
      omega
    exact (copy_succ ht hcurrent hstart (fun hnone => by cases hnone) hroom {} []).trans ih

/-! ## The snapshot and the view -/

/-- A view leads to an entry: the virtual path is valid, and the host finds the entry at the place
that the view has for it, following links. -/
def Directory.Reaches (d : Directory) (t : Tree) (path : String) (entry : Entry) : Prop :=
  ∃ place location, d.hostPath path = .ok place ∧ t.locate true place = .ok (location, entry)

theorem reaches_file_iff {path : String} :
    Directory.Reaches ⟨root⟩ t path (.file content) ↔
      ∃ names, AreNames names ∧ path = render false names ∧ FileAt t root names content := by
  constructor
  · rintro ⟨place, location, hplace, hlocate⟩
    obtain ⟨names, hnames, rfl, rfl⟩ := (hostPath_ok_iff ⟨root⟩ path place).mp hplace
    exact ⟨names, hnames, rfl, location, hlocate⟩
  · rintro ⟨names, hnames, rfl, location, hlocate⟩
    exact ⟨_, location, (hostPath_ok_iff ⟨root⟩ _ _).mpr ⟨names, hnames, rfl, rfl⟩, hlocate⟩

/-- What a view tells about the entry that it leads to. -/
theorem metadata_of_reaches {d : Directory} {path : String} {entry : Entry}
    (h : d.Reaches t path entry) :
    ∃ location, d.metadata t.access path = .ok
      ⟨decide ((t.inspect (location, entry)).kind = .directory),
        (t.inspect (location, entry)).size⟩ := by
  obtain ⟨place, location, hplace, hlocate⟩ := h
  have hstat : t.stat place = .ok (t.inspect (location, entry)) := by
    unfold Tree.stat
    rw [hlocate]
    rfl
  refine ⟨location, ?_⟩
  unfold Directory.metadata Directory.metadataBy
  rw [hplace]
  show (t.stat place).map (fun stat => Metadata.mk (stat.kind = .directory) stat.size) = _
  rw [hstat]
  rfl

theorem read_of_reaches {d : Directory} {path : String} (h : d.Reaches t path (.file content)) :
    d.read t.access path = .ok content := by
  obtain ⟨place, location, hplace, hlocate⟩ := h
  unfold Directory.read Directory.readBy
  rw [hplace]
  show t.read place = _
  unfold Tree.read
  rw [hlocate]
  rfl

/-- **Snapshots.** A snapshot of a directory and a view of it agree for every path: the snapshot
reads exactly the regular files that the view leads to, and there both tell a file of its size; and
where the view leads to a directory with a regular file below it, both tell a directory. -/
theorem snapshot_agrees (ht : WellNamed t) (hload : Memory.ofDirectory t root = .ok m)
    (path : String) :
    (∀ content, m.read path = .ok content ↔
      Directory.Reaches ⟨root⟩ t path (.file content)) ∧
    (∀ content, Directory.Reaches ⟨root⟩ t path (.file content) →
      Directory.read ⟨root⟩ t.access path = .ok content ∧
      m.metadata path = .ok ⟨false, content.length⟩ ∧
      Directory.metadata ⟨root⟩ t.access path = .ok ⟨false, content.length⟩) ∧
    (∀ below content, Directory.Reaches ⟨root⟩ t path .directory → IsAbove path below →
      Directory.Reaches ⟨root⟩ t below (.file content) →
      (∃ entry, m.metadata path = .ok entry ∧ entry.isDirectory = true) ∧
      ∃ entry, Directory.metadata ⟨root⟩ t.access path = .ok entry ∧
        entry.isDirectory = true) := by
  have hcopied : Copied t root [] {} m := by
    have hlisted : Listed t root [] none := fun _ h => by cases h
    refine copy_spec ht (fun _ h => absurd h List.not_mem_nil) hlisted ?_ hload
    exact ⟨Memory.ofInserts_sound [], fun _ _ h => absurd h List.not_mem_nil⟩
  have hsound := hcopied.part.sound
  have hholds : ∀ path content, m.Holds path content ↔
      Directory.Reaches ⟨root⟩ t path (.file content) := by
    intro path content
    rw [reaches_file_iff]
    constructor
    · exact hcopied.part.files path content
    · rintro ⟨names, hnames, rfl, hfile⟩
      exact hcopied.complete names content hnames hfile
  refine ⟨fun content => ?_, fun content hreach => ⟨read_of_reaches hreach, ?_, ?_⟩, ?_⟩
  · rw [Memory.read_ok_iff hsound, hholds]
  · exact (Memory.metadata_ok_iff hsound path _).mpr (.file ((hholds path content).mpr hreach))
  · obtain ⟨location, hmetadata⟩ := metadata_of_reaches hreach
    exact hmetadata
  · intro below content hreach habove hbelow
    have hdirectory : path = "." ∨ m.HasBelow path :=
      Memory.HasBelow.of_isAbove ((hholds below content).mpr hbelow) habove
    obtain ⟨location, hmetadata⟩ := metadata_of_reaches hreach
    refine ⟨?_, _, hmetadata, rfl⟩
    rcases Memory.metadata_above hsound hdirectory with hentry | ⟨body, hbody, -⟩
    · exact ⟨_, hentry, rfl⟩
    · -- a file is stored only where the view leads to a file
      obtain ⟨place, location, hplace, hlocate⟩ := hreach
      obtain ⟨place', location', hplace', hlocate'⟩ := (hholds path body).mp hbody
      cases hplace.symm.trans hplace'
      cases hlocate.symm.trans hlocate'

/-- A directory with one file, and a link to the directory. -/
def linkedTree : Tree where
  entries :=
    [(["docs"], .directory), (["docs", "a.yaml"], .file [97]), (["latest"], .link "docs")]

theorem linkedTree_docs (links : Nat) (names : List String) :
    linkedTree.walk true links [] ("docs" :: names) = linkedTree.walk true links ["docs"] names :=
  Tree.walk_enter (by decide) (by decide) (by decide) (by decide)

theorem linkedTree_latest (links : Nat) (names : List String) :
    linkedTree.walk true (links + 1) [] ("latest" :: names) =
      linkedTree.walk true links ["docs"] names :=
  (Tree.walk_follow (by decide) (by decide) (by decide)
    (show _ = some (Entry.link "docs") by decide) (by decide)).trans (linkedTree_docs links names)

theorem linkedTree_file (links : Nat) :
    linkedTree.walk true links ["docs"] ["a.yaml"] = .ok (["docs", "a.yaml"], .file [97]) :=
  Tree.walk_file (by decide) (by decide) (by decide) (by decide)

theorem linkedTree_locate {path : String} (names : List String)
    (hpath : path.toList.contains (Char.ofNat 0) = false ∧ path.utf8ByteSize ≤ Tree.maxPath ∧
      isAbsolute path = true ∧ segments path = "" :: names) :
    linkedTree.locate true path = linkedTree.walk true Tree.maxLinks [] names := by
  obtain ⟨hnul, hlong, hroot, hsegments⟩ := hpath
  have hne : path ≠ "" := fun h => absurd (h ▸ hroot) (by decide)
  rw [Tree.locate_of_walk (Bool.eq_false_iff.mp hnul) hne (Nat.not_lt.mpr hlong) (if_pos hroot),
    hsegments, Tree.walk_skip (.inl rfl)]

theorem linkedTree_snapshot : Memory.ofDirectory linkedTree "/" =
    .ok ⟨[("docs/a.yaml", [97]), ("latest/a.yaml", [97])]⟩ := by
  have hroot : linkedTree.locate true "/" = .ok ([], .directory) := by
    rw [linkedTree_locate [""] (by decide +kernel), Tree.walk_skip (.inl rfl), Tree.walk]
  have hdocs : linkedTree.locate true "/docs" = .ok (["docs"], .directory) := by
    rw [linkedTree_locate ["docs"] (by decide +kernel), linkedTree_docs, Tree.walk]
  have hfile : linkedTree.locate true "/docs/a.yaml" = .ok (["docs", "a.yaml"], .file [97]) := by
    rw [linkedTree_locate ["docs", "a.yaml"] (by decide +kernel), linkedTree_docs, linkedTree_file]
  have hlatest : linkedTree.locate true "/latest" = .ok (["docs"], .directory) := by
    rw [linkedTree_locate ["latest"] (by decide +kernel), Tree.maxLinks, linkedTree_latest, Tree.walk]
  have hlinked : linkedTree.locate true "/latest/a.yaml" = .ok (["docs", "a.yaml"], .file [97]) := by
    rw [linkedTree_locate ["latest", "a.yaml"] (by decide +kernel), Tree.maxLinks,
      linkedTree_latest, linkedTree_file]
  have hchildren : linkedTree.children [] = ["docs", "latest"] ∧
      linkedTree.children ["docs"] = ["a.yaml"] := by decide
  have hentries : linkedTree.entry? ["docs"] = some .directory ∧
      linkedTree.entry? ["latest"] = some (.link "docs") ∧
      linkedTree.entry? ["docs", "a.yaml"] = some (.file [97]) := by decide
  have hplaces : extend "/" "docs" = "/docs" ∧ extend "/docs" "a.yaml" = "/docs/a.yaml" ∧
      extend "/" "latest" = "/latest" ∧ extend "/latest" "a.yaml" = "/latest/a.yaml" := by
    decide
  have hfirst : Memory.insert {} (keyOf ["docs", "a.yaml"]) [97] = .ok ⟨[("docs/a.yaml", [97])]⟩ := by
    decide +kernel
  have hsecond : Memory.insert ⟨[("docs/a.yaml", [97])]⟩ (keyOf ["latest", "a.yaml"]) [97] =
      .ok ⟨[("docs/a.yaml", [97]), ("latest/a.yaml", [97])]⟩ := by
    decide +kernel
  -- no way is longer than three
  have hcopy : ∀ depth, copy linkedTree {} (depth + 3) "/" [] none [] =
      .ok ⟨[("docs/a.yaml", [97]), ("latest/a.yaml", [97])]⟩ := by
    intro depth
    simp [copy, wayBack, Entry.isLink, hroot, hdocs, hfile, hlatest, hlinked, hchildren, hentries,
      hplaces, hfirst, hsecond, bind, Except.bind, pure, Except.pure]
  exact hcopy 14

/-- The view leads through the link to the file, which the snapshot has twice. -/
theorem snapshot_agrees_through_link : ∃ m, WellNamed linkedTree ∧
    Memory.ofDirectory linkedTree "/" = .ok m ∧ m.read "latest/a.yaml" = .ok [97] ∧
    Directory.Reaches ⟨"/"⟩ linkedTree "latest/a.yaml" (.file [97]) ∧
    Directory.read ⟨"/"⟩ linkedTree.access "latest/a.yaml" = .ok [97] := by
  have hnames : WellNamed linkedTree := by
    have hparts : AreNames ["docs", "a.yaml", "latest"] := by
      intro part hpart
      simp only [List.mem_cons, List.not_mem_nil, or_false] at hpart
      rcases hpart with rfl | rfl | rfl <;>
        exact ⟨⟨by decide, by decide, by decide⟩, by unfold Path.IsFlat; decide⟩
    have hsub : ∀ entry ∈ linkedTree.entries, entry.1 ⊆ ["docs", "a.yaml", "latest"] := by decide
    exact fun entry hentry part hpart => hparts part (hsub entry hentry hpart)
  have hread : Memory.read ⟨[("docs/a.yaml", [97]), ("latest/a.yaml", [97])]⟩ "latest/a.yaml" =
      .ok [97] := by decide +kernel
  obtain ⟨hreads, hfiles, -⟩ := snapshot_agrees hnames linkedTree_snapshot "latest/a.yaml"
  have hreach := (hreads [97]).mp hread
  exact ⟨_, hnames, linkedTree_snapshot, hread, hreach, (hfiles [97] hreach).1⟩

end GuestLint.Virtual
