import GuestLint.Proofs.Virtual.Resolution
import GuestLint.Proofs.Host.Tree

/-!
# What an inspection promises of a read

An inspection and a read of one path are two lookups, and each of them falls back to the host on
its own. They do not fail alike: a directory in memory can be inspected and not read. But a file in
memory can be inspected exactly where it can be read, so whoever was told of a file reads that file.

* `Backs`: a read bears out an inspection.
* `access_candid`: the files of a host tree are as long as they report.
* `lookup_source`: a path leads to a file in memory, to a directory in memory, or to the host.
* `inspected_files_read`: over files in memory, a file that was inspected is read with its size and
  from the place where it was inspected.
-/
namespace GuestLint.Virtual

open Host (Access Failure FileStat Tree Entry Location)

/-! ## Hosts -/

/-- If the inspection tells of a file, the read succeeds with as many bytes as it tells. -/
def Backs (read : Except Failure Bytes) (inspection : Except Failure FileStat) : Prop :=
  ∀ stat, inspection = .ok stat → stat.kind = .file →
    ∃ content, read = .ok content ∧ content.length = stat.size

/-- A host on which every regular file can be read and is as long as it reports. -/
def Candid (host : Access) : Prop :=
  ∀ path, Backs (host.read path) (host.stat path) ∧ Backs (host.read path) (host.lstat path)

theorem inspect_file {t : Tree} {location : Location} {entry : Entry}
    (h : (t.inspect (location, entry)).kind = .file) :
    ∃ content, entry = .file content ∧ (t.inspect (location, entry)).size = content.length := by
  cases entry with
  | file content => exact ⟨content, rfl, rfl⟩
  | _ => cases h

/-- Whether links are followed or not, a file that a path is inspected as is the file that it is
read as. -/
theorem backs_locate (t : Tree) (last : Bool) (path : String) :
    Backs (t.read path) (do pure (t.inspect (← t.locate last path))) := by
  intro stat hstat hkind
  cases hfound : t.locate last path with
  | error e =>
    rw [hfound] at hstat
    cases hstat
  | ok found =>
    rw [hfound] at hstat
    cases hstat
    obtain ⟨location, entry⟩ := found
    obtain ⟨content, rfl, hsize⟩ := inspect_file hkind
    have hfollowed : t.locate true path = .ok (location, .file content) := by
      cases last with
      | true => exact hfound
      | false => exact Tree.locate_follows (fun target => Entry.noConfusion) hfound
    refine ⟨content, ?_, hsize.symm⟩
    unfold Tree.read
    rw [hfollowed]
    rfl

/-- The files of a tree are as long as they report. -/
theorem access_candid (t : Tree) : Candid t.access := fun path =>
  ⟨backs_locate t true path, backs_locate t false path⟩

/-! ## Where a path leads -/

/-- In memory, what can be read is inspected as a file of its size, and what cannot be read is not
inspected as a file. -/
theorem Memory.read_metadata (m : Memory) (key : String) :
    (∃ content, m.read key = .ok content ∧ m.metadata key = .ok ⟨false, content.length⟩) ∨
      (∃ e, m.read key = .error e) ∧
        (m.metadata key = .ok ⟨true, 0⟩ ∨ ∃ e, m.metadata key = .error e) := by
  unfold Memory.read Memory.metadata
  split
  · cases m.files.lookup key with
    | some content => exact .inl ⟨content, rfl, rfl⟩
    | none =>
      refine .inr ⟨⟨_, rfl⟩, ?_⟩
      cases m.isDirectory key with
      | true => exact .inl rfl
      | false => exact .inr ⟨_, rfl⟩
  · exact .inr ⟨⟨_, rfl⟩, .inr ⟨_, rfl⟩⟩

/-- A file in memory answers for a path, whatever the host has there. -/
def AnsweredInMemory (r : Resolution) (path : String) (content : Bytes) : Prop :=
  ∀ host, (r.read host path).result = .ok content ∧
    (r.stat host path).result = .ok ⟨.file, content.length, none⟩ ∧
    (r.lstat host path).result = .ok ⟨.file, content.length, none⟩

/-- The host answers for a path, whatever it has there. -/
def AnsweredByHost (r : Resolution) (path : String) : Prop :=
  ∀ host, (r.read host path).result = host.read path ∧
    (r.stat host path).result = host.stat path ∧ (r.lstat host path).result = host.lstat path

/-- Inspections find a directory in memory, and reads go to the host. -/
def AnsweredApart (r : Resolution) (path : String) : Prop :=
  ∀ host, (r.read host path).result = host.read path ∧
    (r.stat host path).result = .ok ⟨.directory, 0, none⟩ ∧
    (r.lstat host path).result = .ok ⟨.directory, 0, none⟩

theorem virtualStat_ok {m : Memory} {key : String} {entry : Metadata}
    (h : m.metadata key = .ok entry) (host : Access) :
    Resolution.virtualStat host.asking (.memory m) key = .ok entry.stat := by
  rw [virtualStat_memory, h]
  rfl

theorem virtualStat_error {m : Memory} {key : String} {e : Failure}
    (h : m.metadata key = .error e) (host : Access) :
    Resolution.virtualStat host.asking (.memory m) key = .error e := by
  rw [virtualStat_memory, h]
  rfl

/-- Over files in memory, or none, a path leads to one of three places. -/
theorem lookup_source (workingDirectory : String) (files : Option Memory) (path : String) :
    let r : Resolution := ⟨workingDirectory, files.map .memory⟩
    (∃ content, AnsweredInMemory r path content) ∨ AnsweredByHost r path ∨
      AnsweredApart r path := by
  cases files with
  | none => exact .inr (.inl fun _ => ⟨rfl, rfl, rfl⟩)
  | some m =>
    cases hrel : Path.relative workingDirectory path with
    | error e =>
      exact .inr (.inl fun _ =>
        ⟨lookup_unrelated hrel _, lookup_unrelated hrel _, lookup_unrelated hrel _⟩)
    | ok key =>
      rcases m.read_metadata key with ⟨content, hread, hmeta⟩ | ⟨⟨e, hread⟩, hmeta | ⟨e', hmeta⟩⟩
      · have hstat := virtualStat_ok hmeta
        exact .inl ⟨content, fun host => ⟨lookup_hits hrel hread _,
          lookup_hits hrel (hstat host) _, lookup_hits hrel (hstat host) _⟩⟩
      · have hstat := virtualStat_ok hmeta
        exact .inr (.inr fun host => ⟨lookup_misses hrel hread _,
          lookup_hits hrel (hstat host) _, lookup_hits hrel (hstat host) _⟩)
      · have hstat := virtualStat_error hmeta
        exact .inr (.inl fun host => ⟨lookup_misses hrel hread _,
          lookup_misses hrel (hstat host) _, lookup_misses hrel (hstat host) _⟩)

/-- **Inspections and reads.** Over files in memory, or none, and a host whose files are as long as
they report: if an inspection tells of a file at a path, a read of the path succeeds with as many
bytes. Both come from one place, from a file in memory whatever the host has there, or from the
host. -/
theorem inspected_files_read (workingDirectory : String) (files : Option Memory) {host : Access}
    (h : Candid host) (path : String) :
    let r : Resolution := ⟨workingDirectory, files.map .memory⟩
    Backs (r.read host path).result (r.stat host path).result ∧
      Backs (r.read host path).result (r.lstat host path).result ∧
      ∀ stat, (r.stat host path).result = .ok stat ∨ (r.lstat host path).result = .ok stat →
        stat.kind = .file →
          (∃ content, AnsweredInMemory r path content) ∨ AnsweredByHost r path := by
  intro r
  rcases lookup_source workingDirectory files path with ⟨content, hmemory⟩ | hhost | hapart
  · obtain ⟨hread, hstat, hlstat⟩ := hmemory host
    rw [hread, hstat, hlstat]
    have hbacks : Backs (.ok content) (.ok ⟨.file, content.length, none⟩) := by
      rintro _ ⟨⟩ -
      exact ⟨content, rfl, rfl⟩
    exact ⟨hbacks, hbacks, fun _ _ _ => .inl ⟨content, hmemory⟩⟩
  · obtain ⟨hread, hstat, hlstat⟩ := hhost host
    rw [hread, hstat, hlstat]
    exact ⟨(h path).1, (h path).2, fun _ _ _ => .inr hhost⟩
  · -- a directory is no file, so nothing was promised
    obtain ⟨hread, hstat, hlstat⟩ := hapart host
    rw [hread, hstat, hlstat]
    have hbacks : Backs (host.read path) (.ok ⟨.directory, 0, none⟩) := by
      rintro _ ⟨⟩ ⟨⟩
    refine ⟨hbacks, hbacks, ?_⟩
    rintro _ (⟨⟨⟩⟩ | ⟨⟨⟩⟩) ⟨⟩

/-- A host with a file where the files in memory have another one. -/
def shadowedTree : Tree where
  entries := [(["work"], .directory), (["work", "docs"], .directory),
    (["work", "docs", "a"], .file [1, 2, 3, 4, 5])]

/-- The file in memory has two bytes, and two bytes are read. -/
theorem inspected_files_read_shadowed :
    let r : Resolution := ⟨"/work", some (.memory ⟨[("docs/a", [97, 98])]⟩)⟩
    Candid shadowedTree.access ∧
    (r.stat shadowedTree.access "/work/docs/../docs/a").result = .ok ⟨.file, 2, none⟩ ∧
    ∃ content, (r.read shadowedTree.access "/work/docs/../docs/a").result = .ok content ∧
      content.length = 2 := by
  intro r
  have hcandid := access_candid shadowedTree
  have hstat : (r.stat shadowedTree.access "/work/docs/../docs/a").result =
      .ok ⟨.file, 2, none⟩ := by decide +kernel
  obtain ⟨hbacks, -, -⟩ := inspected_files_read "/work" (some ⟨[("docs/a", [97, 98])]⟩) hcandid
    "/work/docs/../docs/a"
  exact ⟨hcandid, hstat, hbacks _ hstat rfl⟩

end GuestLint.Virtual
