import GuestLint.Virtual.Memory
import GuestLint.Proofs.Path.Lexical
import GuestLint.Proofs.Text.Basic

/-!
# Files in memory, as inserts build them

Files are kept in the order of their paths, and a directory is found by looking at one path only:
the first that does not come before the directory's own paths. Inserts keep the order, so this one
decides.

* `isValid_iff`: the valid paths are the spellings of lists of names.
* `Memory.Sound`: paths are valid and in order; `ofInserts_sound`: inserts keep both.
* `holds_put`, `read_ok_iff`: an insert stores one file, and a path reads as the file stored there.
* `isDirectory_iff`: a path is a directory exactly when it is the root or a file lies below it.
* `metadata_ok_iff`: what a file system in memory knows is its files and its directories.
-/
namespace GuestLint.Virtual

open GuestLint.Path (IsName IsFlat IsSolid segments render)

/-! ## Valid paths -/

/-- Names of entries, without separators. -/
def AreNames (names : List String) : Prop := ∀ part ∈ names, IsName part ∧ IsFlat part

theorem AreNames.right {names more : List String} (h : AreNames (names ++ more)) :
    AreNames more := fun part hp => h part (List.mem_append_right names hp)

theorem AreNames.append {names more : List String} (h : AreNames names) (h' : AreNames more) :
    AreNames (names ++ more) := fun part hp =>
  (List.mem_append.mp hp).elim (h part) (h' part)

theorem AreNames.solid {names : List String} (h : AreNames names) :
    ∀ part ∈ names, IsSolid part := fun part hp =>
  ⟨(h part hp).1.ne_empty, (h part hp).1.ne_dot, (h part hp).2⟩

theorem AreNames.segments_render {names : List String} (h : AreNames names) (hne : names ≠ []) :
    segments (render false names) = names := by
  rw [Path.render_unrooted hne]
  exact Path.segments_unsegment hne fun part hp => (h part hp).2

theorem AreNames.render_ne_empty {names : List String} (h : AreNames names) :
    render false names ≠ "" := by
  intro heq
  by_cases hne : names = []
  · subst hne
    exact absurd heq (by decide)
  · have hseg := h.segments_render hne
    rw [heq, Path.segments_empty] at hseg
    exact (h "" (hseg ▸ List.mem_singleton.mpr rfl)).1.ne_empty rfl

/-- **Valid paths.** A path is valid exactly when it spells a list of names; the root spells
none. -/
theorem isValid_iff (path : String) :
    isValid path = true ↔ ∃ names, AreNames names ∧ path = render false names := by
  unfold isValid
  constructor
  · intro h
    rcases Bool.or_eq_true_iff.mp h with h | h
    · exact ⟨[], by simp [AreNames], beq_iff_eq.mp h⟩
    · simp only [Bool.and_eq_true, List.all_eq_true, bne_iff_ne, ne_eq] at h
      refine ⟨segments path, fun part hp => ?_, ?_⟩
      · obtain ⟨⟨h1, h2⟩, h3⟩ := h.2 part hp
        exact ⟨⟨h1, h2, h3⟩, Path.segments_flat hp⟩
      · rw [Path.render_unrooted (Path.segments_ne_nil path), Path.unsegment_segments]
  · rintro ⟨names, h, rfl⟩
    by_cases hne : names = []
    · subst hne
      rfl
    · have habs := Path.isAbsolute_render false h.solid
      have hall : names.all (fun part => part != "" && part != "." && part != "..") = true := by
        rw [List.all_eq_true]
        intro part hp
        simp [(h part hp).1.ne_empty, (h part hp).1.ne_dot, (h part hp).1.ne_up]
      rw [h.segments_render hne, hall, habs]
      simp [h.render_ne_empty]

/-! ## What inserts build -/

namespace Memory

theorem before_trans {a b c : String} (h : before a b = true) (h' : before b c = true) :
    before a c = true :=
  decide_eq_true (String.lt_trans (of_decide_eq_true h) (of_decide_eq_true h'))

theorem before_irrefl (a : String) : before a a = false :=
  decide_eq_false (String.lt_irrefl a)

theorem before_asymm {a b : String} (h : before a b = true) : before b a = false :=
  decide_eq_false (String.lt_asymm (of_decide_eq_true h))

theorem before_connex {a b : String} (hne : a ≠ b) (h : before a b = false) :
    before b a = true := by
  cases hback : before b a with
  | true => rfl
  | false =>
    exact absurd (String.le_antisymm (of_decide_eq_false hback) (of_decide_eq_false h)) hne

/-- Paths are valid, and each comes before all that follow it. -/
structure Sound (m : Memory) : Prop where
  valid : ∀ file ∈ m.files, isValid file.1 = true
  sorted : m.files.Pairwise fun a b => before a.1 b.1 = true

theorem mem_insertSorted {path : String} {content : Bytes} {files : List (String × Bytes)}
    {file : String × Bytes} (h : file ∈ insertSorted path content files) :
    file = (path, content) ∨ file ∈ files := by
  induction files with
  | nil => exact .inl (List.mem_singleton.mp h)
  | cons first files ih =>
    obtain ⟨key, old⟩ := first
    unfold insertSorted at h
    split at h
    · exact (List.mem_cons.mp h).imp id (List.mem_cons_of_mem _)
    · split at h
      · exact List.mem_cons.mp h
      · rcases List.mem_cons.mp h with rfl | h
        · exact .inr List.mem_cons_self
        · exact (ih h).imp id (List.mem_cons_of_mem _)

theorem insertSorted_sorted (path : String) (content : Bytes) {files : List (String × Bytes)}
    (h : files.Pairwise fun a b => before a.1 b.1 = true) :
    (insertSorted path content files).Pairwise fun a b => before a.1 b.1 = true := by
  induction files with
  | nil => exact List.pairwise_singleton ..
  | cons first files ih =>
    obtain ⟨key, old⟩ := first
    obtain ⟨hfirst, hrest⟩ := List.pairwise_cons.mp h
    unfold insertSorted
    split
    · rename_i heq
      exact List.pairwise_cons.mpr ⟨fun file hf => heq ▸ hfirst file hf, hrest⟩
    · rename_i hne
      split
      · rename_i hlt
        refine List.pairwise_cons.mpr ⟨fun file hf => ?_, h⟩
        rcases List.mem_cons.mp hf with rfl | hf
        · exact hlt
        · exact before_trans hlt (hfirst file hf)
      · rename_i hlt
        refine List.pairwise_cons.mpr ⟨fun file hf => ?_, ih hrest⟩
        rcases mem_insertSorted hf with rfl | hf
        · exact before_connex hne (Bool.not_eq_true _ ▸ hlt)
        · exact hfirst file hf

theorem Sound.insert {m m' : Memory} (h : m.Sound) {path : String} {content : Bytes}
    (hins : m.insert path content = .ok m') : m'.Sound := by
  unfold Memory.insert at hins
  simp only at hins
  split at hins
  · rename_i hvalid
    cases hins
    refine ⟨fun file hf => ?_, insertSorted_sorted _ content h.sorted⟩
    rcases mem_insertSorted hf with rfl | hf
    · exact hvalid
    · exact h.valid file hf
  · cases hins

/-- One insert; when it fails nothing changes. -/
def put (m : Memory) (file : String × Bytes) : Memory :=
  match m.insert file.1 file.2 with
  | .ok m' => m'
  | .error _ => m

/-- The file system that inserts build, the first of them in front. -/
def ofInserts (inserts : List (String × Bytes)) : Memory :=
  inserts.foldl put {}

theorem Sound.put {m : Memory} (h : m.Sound) (file : String × Bytes) : (m.put file).Sound := by
  unfold Memory.put
  split
  · rename_i hins
    exact h.insert hins
  · exact h

theorem ofInserts_sound (inserts : List (String × Bytes)) : (ofInserts inserts).Sound := by
  have hkeep : ∀ m : Memory, m.Sound → (inserts.foldl Memory.put m).Sound := by
    induction inserts with
    | nil => exact fun m h => h
    | cons file inserts ih => exact fun m h => ih _ (h.put file)
  exact hkeep {} ⟨by simp, List.Pairwise.nil⟩

/-! ## Stored files -/

/-- A file that is stored under a key. -/
def Holds (m : Memory) (key : String) (content : Bytes) : Prop := (key, content) ∈ m.files

theorem lookup_cons_ne {key old : String} (hne : key ≠ old) (body : Bytes)
    (files : List (String × Bytes)) : ((old, body) :: files).lookup key = files.lookup key := by
  have hneq : (key == old) = false := beq_eq_false_iff_ne.mpr hne
  rw [List.lookup_cons, hneq]

theorem lookup_insertSorted (path : String) (content : Bytes) (files : List (String × Bytes))
    (key : String) : (insertSorted path content files).lookup key =
      if key = path then some content else files.lookup key := by
  by_cases hkey : key = path
  · subst hkey
    rw [if_pos rfl]
    induction files with
    | nil => exact List.lookup_cons_self
    | cons first files ih =>
      obtain ⟨old, body⟩ := first
      unfold insertSorted
      split
      · exact List.lookup_cons_self
      · rename_i hne
        split
        · exact List.lookup_cons_self
        · rw [lookup_cons_ne hne, ih]
  · rw [if_neg hkey]
    induction files with
    | nil => exact lookup_cons_ne hkey content []
    | cons first files ih =>
      obtain ⟨old, body⟩ := first
      unfold insertSorted
      split
      · rename_i heq
        rw [lookup_cons_ne hkey, lookup_cons_ne (heq ▸ hkey)]
      · split
        · exact lookup_cons_ne hkey content _
        · rw [List.lookup_cons, List.lookup_cons, ih]

theorem Sound.lookup_iff {m : Memory} (h : m.Sound) (key : String) (content : Bytes) :
    m.files.lookup key = some content ↔ m.Holds key content := by
  rw [List.lookup_eq_some_iff]
  constructor
  · rintro ⟨front, rest, hsplit, -⟩
    unfold Holds
    rw [hsplit]
    exact List.mem_append_right _ List.mem_cons_self
  · intro hm
    obtain ⟨front, rest, hsplit⟩ := List.append_of_mem hm
    refine ⟨front, rest, hsplit, fun file hf => ?_⟩
    have hsorted := h.sorted
    rw [hsplit, List.pairwise_append] at hsorted
    have hlt := hsorted.2.2 file hf _ List.mem_cons_self
    rw [bne_iff_ne]
    rintro rfl
    rw [before_irrefl] at hlt
    cases hlt

/-- What an insert changes: the file under the shortest spelling of the path, if this addresses an
entry. -/
theorem holds_put {m : Memory} (h : m.Sound) (path : String) (content : Bytes) (key : String)
    (body : Bytes) : (m.put (path, content)).Holds key body ↔
      if key = Path.clean path ∧ isValid key = true then body = content
      else m.Holds key body := by
  rw [← (h.put (path, content)).lookup_iff, ← h.lookup_iff]
  unfold Memory.put Memory.insert
  by_cases hvalid : isValid (Path.clean path) = true
  · simp only [hvalid, if_true, lookup_insertSorted]
    by_cases hkey : key = Path.clean path
    · subst hkey
      simp [hvalid, eq_comm]
    · simp [hkey]
  · have hfree : ¬ (key = Path.clean path ∧ isValid key = true) := by
      rintro ⟨rfl, hkey⟩
      exact hvalid hkey
    rw [if_neg hfree]
    simp only [hvalid]
    rfl

/-- **Reading.** A path reads as the content stored under it, and as nothing else. -/
theorem read_ok_iff {m : Memory} (h : m.Sound) (path : String) (content : Bytes) :
    m.read path = .ok content ↔ m.Holds path content := by
  rw [← h.lookup_iff]
  unfold Memory.read
  constructor
  · intro hr
    split at hr
    · split at hr
      · rename_i hfind
        rw [hfind, Except.ok.inj hr]
      · cases hr
    · cases hr
  · intro hl
    rw [if_pos (h.valid _ ((h.lookup_iff path content).mp hl)), hl]

/-! ## Directories -/

/-- A path below which a file lies. -/
def HasBelow (m : Memory) (path : String) : Prop :=
  ∃ file ∈ m.files, (path ++ "/").toList <+: file.1.toList

theorem startsWith_iff (start text : String) :
    startsWith start text = true ↔ start.toList <+: text.toList := by
  unfold startsWith
  rw [Option.isSome_iff_exists]
  exact exists_congr fun rest => Text.strip?_eq_some_iff.trans eq_comm

/-- In the order of words, what lies between a start and a word with this start has it too. -/
theorem prefix_between {α : Type} [LT α] [Std.Trichotomous (· < · : α → α → Prop)]
    {start text text' : List α} (h : ¬ text < start) (hle : ¬ text' < text)
    (hp : start <+: text') : start <+: text := by
  induction start generalizing text text' with
  | nil => exact List.nil_prefix
  | cons a start ih =>
    cases text with
    | nil => exact absurd (List.nil_lt_cons a start) h
    | cons b text =>
      cases text' with
      | nil => exact absurd hp (by simp)
      | cons c text' =>
        obtain ⟨rfl, hrest⟩ := List.cons_prefix_cons.mp hp
        rw [List.cons_lt_cons_iff, not_or] at h hle
        have heq : a = b := Std.Trichotomous.trichotomous a b hle.1 h.1
        subst heq
        refine List.cons_prefix_cons.mpr ⟨rfl, ih ?_ ?_ hrest⟩
        · exact fun hlt => h.2 ⟨rfl, hlt⟩
        · exact fun hlt => hle.2 ⟨rfl, hlt⟩

theorem prefix_of_not_before {start path path' : String} (h : before path start = false)
    (hle : before path' path = false) (hp : start.toList <+: path'.toList) :
    start.toList <+: path.toList :=
  prefix_between (of_decide_eq_false h) (of_decide_eq_false hle) hp

theorem not_before_of_prefix {start path : String} (hp : start.toList <+: path.toList) :
    before path start = false :=
  decide_eq_false (List.IsPrefix.le hp)

/-- **Directories.** A path is a directory exactly when it is the root or a file lies below it. -/
theorem isDirectory_iff {m : Memory} (h : m.Sound) (path : String) :
    m.isDirectory path = true ↔ path = "." ∨ m.HasBelow path := by
  unfold isDirectory
  rw [Bool.or_eq_true, beq_iff_eq]
  refine or_congr_right ⟨fun hm => ?_, ?_⟩
  · split at hm
    · rename_i hfind
      exact ⟨_, List.mem_of_find?_eq_some hfind, (startsWith_iff _ _).mp hm⟩
    · cases hm
  · rintro ⟨file, hf, hp⟩
    -- the file does not come before `path/`, so there is a first such file
    have hnot := not_before_of_prefix hp
    split
    · rename_i key content hfind
      obtain ⟨hfirst, front, rest, hsplit, hfront⟩ := List.find?_eq_some_iff_append.mp hfind
      have hle : before file.1 key = false := by
        rw [hsplit, List.mem_append, List.mem_cons] at hf
        rcases hf with hf | rfl | hf
        · exact absurd hnot (by simpa using hfront file hf)
        · exact before_irrefl _
        · have hsorted := h.sorted
          rw [hsplit, List.pairwise_append, List.pairwise_cons] at hsorted
          exact before_asymm (hsorted.2.1.1 file hf)
      refine (startsWith_iff _ _).mpr (prefix_of_not_before ?_ hle hp)
      simpa using hfirst
    · rename_i hfind
      exact absurd hnot (by simpa using List.find?_eq_none.mp hfind file hf)

/-- What lies above a file has a valid path. -/
theorem HasBelow.valid {m : Memory} (h : m.Sound) {path : String} (hb : m.HasBelow path) :
    isValid path = true := by
  obtain ⟨file, hf, rest, hrest⟩ := hb
  have hkey : file.1 = path ++ "/" ++ String.ofList rest := by
    apply String.toList_inj.mp
    rw [String.toList_append, String.toList_ofList, hrest]
  have hroot : (path ++ "/" ++ String.ofList rest == ".") = false := by
    refine beq_eq_false_iff_ne.mpr fun heq => ?_
    have hmem : '/' ∈ (path ++ "/" ++ String.ofList rest).toList := by simp
    rw [heq] at hmem
    exact absurd hmem (by decide)
  have hvalid := h.valid file hf
  rw [hkey] at hvalid
  unfold isValid at hvalid ⊢
  rw [hroot, Bool.false_or, Path.segments_append, List.all_append] at hvalid
  simp only [Bool.and_eq_true] at hvalid
  obtain ⟨⟨-, habs⟩, hparts, -⟩ := hvalid
  have hne : path ≠ "" := by
    rintro rfl
    exact absurd hparts (by decide)
  rw [String.append_assoc, Path.isAbsolute_append hne] at habs
  rw [habs, hparts, bne_iff_ne.mpr hne, Bool.and_true, Bool.and_true, Bool.or_true]

/-! ## Metadata -/

/-- What a file system in memory knows: each stored file with its size, and each directory, with
the root, that is not stored as a file. -/
inductive Knows (m : Memory) : String → Metadata → Prop
  | file {key : String} {content : Bytes} (h : m.Holds key content) :
    Knows m key ⟨false, content.length⟩
  | directory {key : String} (h : key = "." ∨ m.HasBelow key)
    (hfree : ∀ content, ¬ m.Holds key content) : Knows m key ⟨true, 0⟩

theorem Knows.valid {m : Memory} (h : m.Sound) {key : String} {entry : Metadata}
    (hk : m.Knows key entry) : isValid key = true := by
  cases hk with
  | file hm => exact h.valid _ hm
  | directory hd =>
    rcases hd with rfl | hb
    · rfl
    · exact hb.valid h

/-- **Metadata.** The entries that are found are the known ones. -/
theorem metadata_ok_iff {m : Memory} (h : m.Sound) (path : String) (entry : Metadata) :
    m.metadata path = .ok entry ↔ m.Knows path entry := by
  have hnone : m.files.lookup path = none ↔ ∀ content, ¬ m.Holds path content := by
    rw [Option.eq_none_iff_forall_ne_some]
    exact forall_congr' fun content => not_congr (h.lookup_iff path content)
  unfold Memory.metadata
  constructor
  · intro hm
    split at hm
    · split at hm
      · rename_i content hfind
        obtain rfl := Except.ok.inj hm
        exact .file ((h.lookup_iff _ _).mp hfind)
      · rename_i hfind
        split at hm
        · rename_i hdir
          obtain rfl := Except.ok.inj hm
          exact .directory ((isDirectory_iff h path).mp hdir) (hnone.mp hfind)
        · cases hm
    · cases hm
  · intro hk
    rw [if_pos (hk.valid h)]
    cases hk with
    | file hm => rw [(h.lookup_iff _ _).mpr hm]
    | directory hd hfree =>
      rw [hnone.mpr hfree]
      simp only [(isDirectory_iff h path).mpr hd, if_true]

end Memory
end GuestLint.Virtual
