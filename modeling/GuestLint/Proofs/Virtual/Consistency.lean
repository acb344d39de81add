import GuestLint.Proofs.Virtual.Inserts

/-!
# Whether files in memory form a tree

In a tree the root is a directory, what lies above a file is a directory, and no file lies above
another one. Files in memory are kept by their paths alone, and an insert looks at the spelling of
its path but not at what is stored: so a file can come to stand at the root, or above other files.

* `unsegment_append`, `HasBelow.of_isAbove`: what lies above a path is a start of its spelling.
* `holds_ofInserts`: which paths are stored after any inserts.
* `metadata_above`: what is found above a stored file.
* `consistent_iff`: the files are a tree exactly when no insert goes to the root and none goes
  above another.
* `inconsistent_root`: inserts that build no tree.
-/
namespace GuestLint.Virtual

open GuestLint.Path (clean render segments unsegment)

/-! ## Above a path -/

/-- The paths above a path are those that fewer of its names lead to; the root is above all. -/
def IsAbove (dir path : String) : Prop :=
  ∃ names more, AreNames (names ++ more) ∧ more ≠ [] ∧
    dir = render false names ∧ path = render false (names ++ more)

theorem AreNames.left {names more : List String} (h : AreNames (names ++ more)) :
    AreNames names := fun part hp => h part (List.mem_append_left more hp)

theorem unsegment_append {parts more : List String} (hne : parts ≠ []) (hmore : more ≠ [])
    (hflat : ∀ part ∈ parts ++ more, Path.IsFlat part) :
    unsegment (parts ++ more) = unsegment parts ++ "/" ++ unsegment more := by
  have hparts : segments (unsegment parts) = parts :=
    Path.segments_unsegment hne fun part hp => hflat part (List.mem_append_left more hp)
  have hrest : segments (unsegment more) = more :=
    Path.segments_unsegment hmore fun part hp => hflat part (List.mem_append_right parts hp)
  have hboth := Path.segments_append (unsegment parts) (unsegment more)
  rw [hparts, hrest] at hboth
  rw [← hboth, Path.unsegment_segments]

namespace IsAbove

theorem valid {dir path : String} (h : IsAbove dir path) :
    isValid dir = true ∧ isValid path = true := by
  obtain ⟨names, more, hnames, -, rfl, rfl⟩ := h
  exact ⟨(isValid_iff _).mpr ⟨names, hnames.left, rfl⟩,
    (isValid_iff _).mpr ⟨names ++ more, hnames, rfl⟩⟩

/-- Above a path is the root, or a start of the path that ends before a separator. -/
theorem root_or_start {dir path : String} (h : IsAbove dir path) :
    dir = "." ∨ (dir ++ "/").toList <+: path.toList := by
  obtain ⟨names, more, hnames, hmore, rfl, rfl⟩ := h
  by_cases hne : names = []
  · exact .inl (by simp [hne, render])
  · right
    have happ : names ++ more ≠ [] := List.append_ne_nil_of_left_ne_nil hne more
    rw [Path.render_unrooted hne, Path.render_unrooted happ,
      unsegment_append hne hmore fun part hp => (hnames part hp).2]
    exact ⟨(unsegment more).toList, String.toList_append.symm⟩

end IsAbove

namespace Memory

/-! ## What inserts store -/

/-- A path is stored exactly when it is the shortest spelling of a path that was inserted, and
valid. -/
theorem holds_ofInserts (inserts : List (String × Bytes)) (key : String) :
    (∃ content, (ofInserts inserts).Holds key content) ↔
      isValid key = true ∧ ∃ file ∈ inserts, clean file.1 = key := by
  have hlatest : (∃ content, (ofInserts inserts).Holds key content) ↔
      (latest inserts key).isSome = true := by
    simp only [holds_ofInserts_iff, Option.isSome_iff_exists]
  rw [hlatest, latest, Option.isSome_map, List.find?_isSome]
  constructor
  · rintro ⟨file, hm, hkey⟩
    obtain ⟨henters, rfl⟩ := of_decide_eq_true hkey
    exact ⟨(isValid_clean_iff file.1).mpr henters, file, List.mem_reverse.mp hm, rfl⟩
  · rintro ⟨hvalid, file, hm, rfl⟩
    exact ⟨file, List.mem_reverse.mpr hm,
      decide_eq_true ⟨(isValid_clean_iff file.1).mp hvalid, rfl⟩⟩

theorem HasBelow.of_isAbove {m : Memory} {dir path : String} {content : Bytes}
    (hpath : m.Holds path content) (h : IsAbove dir path) : dir = "." ∨ m.HasBelow dir :=
  h.root_or_start.imp_right fun hstart => ⟨(path, content), hpath, hstart⟩

/-- What is found at the root and above a stored file: a directory, unless a file is stored there
too. -/
theorem metadata_above {m : Memory} (h : m.Sound) {dir : String}
    (hdir : dir = "." ∨ m.HasBelow dir) :
    m.metadata dir = .ok ⟨true, 0⟩ ∨ ∃ content, m.Holds dir content ∧
      m.metadata dir = .ok ⟨false, content.length⟩ := by
  by_cases hfree : ∀ content, ¬ m.Holds dir content
  · exact .inl ((metadata_ok_iff h dir _).mpr (.directory hdir hfree))
  · obtain ⟨content, hm⟩ := Classical.not_forall_not.mp hfree
    exact .inr ⟨content, hm, (metadata_ok_iff h dir _).mpr (.file hm)⟩

/-! ## Trees -/

/-- Files that form a tree. -/
structure Consistent (m : Memory) : Prop where
  root : ∃ entry, m.metadata "." = .ok entry ∧ entry.isDirectory = true
  above : ∀ path content, m.read path = .ok content → ∀ dir, IsAbove dir path →
    ∃ entry, m.metadata dir = .ok entry ∧ entry.isDirectory = true
  apart : ∀ path content other otherContent, m.read path = .ok content →
    m.read other = .ok otherContent → ¬ IsAbove path other

/-- Where a directory is found, no file is stored. -/
theorem not_holds_of_directory {m : Memory} (h : m.Sound) {dir : String} {entry : Metadata}
    (hentry : m.metadata dir = .ok entry) (hdir : entry.isDirectory = true) (content : Bytes) :
    ¬ m.Holds dir content := by
  cases (metadata_ok_iff h dir entry).mp hentry with
  | file hm => cases hdir
  | directory _ hfree => exact hfree content

/-- **Trees.** Whatever is inserted, the files form a tree if and only if no insert goes to the root
and none goes above another. -/
theorem consistent_iff (inserts : List (String × Bytes)) :
    (ofInserts inserts).Consistent ↔
      ∀ file ∈ inserts, clean file.1 ≠ "." ∧
        ∀ other ∈ inserts, ¬ IsAbove (clean file.1) (clean other.1) := by
  have hsound := ofInserts_sound inserts
  have hstored : ∀ file ∈ inserts, isValid (clean file.1) = true →
      ∃ content, (ofInserts inserts).read (clean file.1) = .ok content := by
    intro file hm hvalid
    obtain ⟨content, hcontent⟩ := (holds_ofInserts inserts _).mpr ⟨hvalid, file, hm, rfl⟩
    exact ⟨content, (read_ok_iff hsound _ _).mpr hcontent⟩
  have hinserted : ∀ path content, (ofInserts inserts).Holds path content →
      ∃ file ∈ inserts, clean file.1 = path := fun path content hm =>
    ((holds_ofInserts inserts path).mp ⟨content, hm⟩).2
  constructor
  · intro h file hm
    constructor
    · intro hroot
      obtain ⟨content, hread⟩ := hstored file hm (hroot ▸ rfl)
      obtain ⟨entry, hentry, hdir⟩ := h.root
      rw [hroot] at hread
      exact not_holds_of_directory hsound hentry hdir content ((read_ok_iff hsound _ _).mp hread)
    · intro other hother habove
      obtain ⟨content, hread⟩ := hstored file hm habove.valid.1
      obtain ⟨body, hbody⟩ := hstored other hother habove.valid.2
      exact h.apart _ _ _ _ hread hbody habove
  · intro h
    -- nothing is stored at the root or above a stored file, so a directory is found there
    have hdirectory : ∀ dir, (dir = "." ∨ (ofInserts inserts).HasBelow dir) →
        (∀ content, ¬ (ofInserts inserts).Holds dir content) →
        ∃ entry, (ofInserts inserts).metadata dir = .ok entry ∧ entry.isDirectory = true := by
      intro dir hdir hfree
      rcases metadata_above hsound hdir with hentry | ⟨content, hm, -⟩
      · exact ⟨_, hentry, rfl⟩
      · exact absurd hm (hfree content)
    have hapart : ∀ path content dir body, (ofInserts inserts).Holds path content →
        (ofInserts inserts).Holds dir body → ¬ IsAbove dir path := by
      intro path content dir body hpath hdir habove
      obtain ⟨file, hm, rfl⟩ := hinserted dir body hdir
      obtain ⟨other, hother, rfl⟩ := hinserted path content hpath
      exact (h file hm).2 other hother habove
    refine ⟨hdirectory "." (.inl rfl) fun content hm => ?_, ?_, ?_⟩
    · obtain ⟨file, hfile, hroot⟩ := hinserted "." content hm
      exact (h file hfile).1 hroot
    · intro path content hread dir habove
      have hpath := (read_ok_iff hsound _ _).mp hread
      exact hdirectory dir (HasBelow.of_isAbove hpath habove) fun body hdir =>
        hapart path content dir body hpath hdir habove
    · intro path content other body hpath hother
      exact hapart other body path content ((read_ok_iff hsound _ _).mp hother)
        ((read_ok_iff hsound _ _).mp hpath)

/-- A file can be stored at the root, which then is no directory. -/
theorem inconsistent_root :
    ¬ (ofInserts [(".", [120])]).Consistent ∧
      (ofInserts [(".", [120])]).metadata "." = .ok ⟨false, 1⟩ := by
  refine ⟨fun h => ?_, by decide +kernel⟩
  obtain ⟨entry, hentry, hdir⟩ := h.root
  have hfile : (ofInserts [(".", [120])]).metadata "." = .ok ⟨false, 1⟩ := by decide +kernel
  rw [hfile] at hentry
  cases hentry
  cases hdir

end Memory
end GuestLint.Virtual
