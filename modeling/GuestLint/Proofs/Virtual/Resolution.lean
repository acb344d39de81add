import GuestLint.Virtual.Resolution
import GuestLint.Proofs.Virtual.Memory

/-!
# Which file a path leads to

A guest's path is made relative to the working directory, and what comes out is looked up as a key
if it spells one. Seen from the keys this is plain: a key is looked up for exactly those paths that
clean to the key joined to the working directory.

* `join_names`, `relative_iff_join`: joining a key, and leading back to it.
* `lookup_routes`: a lookup answers from the key that the path leads to, else from the host.
* `memory_routes`: reads and inspections over the files that inserts build.
-/
namespace GuestLint.Virtual

open GuestLint.Path (IsSolid cleanParts clean join relative render isAbsolute reduce)
open Host (Access Failure FileStat)

/-! ## Keys below a place -/

/-- Names are joined behind the segments of a place, and nothing is reduced. -/
theorem join_names (place : String) {names : List String} (h : AreNames names) :
    join [place, render false names] = render (isAbsolute place) (cleanParts place ++ names) := by
  rw [Path.join_pair place (Path.isAbsolute_render false h.solid)]
  by_cases hne : names = []
  · subst hne
    have hdot : Path.segments (render false []) = ["."] := by decide
    rw [hdot, Path.reduce_append_skip _ _ (.inr rfl), (Path.cleanParts_reduced place).reduce_eq,
      List.append_nil]
  · rw [h.segments_render hne, Path.reduce_append_names _ _ fun part hp => (h part hp).1,
      (Path.cleanParts_reduced place).reduce_eq]

theorem append_solid {place : String} {names : List String} (h : AreNames names) :
    ∀ part ∈ cleanParts place ++ names, IsSolid part := by
  intro part hp
  rcases List.mem_append.mp hp with hp | hp
  · exact Path.cleanParts_solid hp
  · exact h.solid part hp

/-- A way that climbs and ends as a list of names does not climb. -/
theorem AreNames.no_climb {names climbs rest : List String} (h : AreNames names)
    (hrest : ∀ part ∈ rest, IsSolid part)
    (heq : render false names = render false (climbs.map (fun _ => "..") ++ rest)) :
    climbs = [] ∧ rest = names := by
  have hsolid : ∀ part ∈ climbs.map (fun _ => "..") ++ rest, IsSolid part := by
    intro part hp
    rcases List.mem_append.mp hp with hp | hp
    · obtain ⟨-, -, rfl⟩ := List.mem_map.mp hp
      exact ⟨by decide, by decide, by simp [Path.IsFlat]⟩
    · exact hrest part hp
  have hnames := ((Path.render_inj h.solid hsolid).mp heq).2
  cases climbs with
  | nil => exact ⟨rfl, hnames.symm⟩
  | cons climb climbs =>
    have hup : ".." ∈ names := by
      rw [hnames]
      exact List.mem_cons_self
    exact absurd rfl (h ".." hup).1.ne_up

/-- **Keys and paths.** A path leads to a key exactly when it cleans to the key joined to the
place. -/
theorem relative_iff_join {place path key : String} (hkey : isValid key = true) :
    relative place path = .ok key ↔ join [place, key] = clean path := by
  obtain ⟨names, h, rfl⟩ := (isValid_iff key).mp hkey
  rw [join_names place h, Path.clean_eq, Path.render_inj (append_solid h)
    fun _ => Path.cleanParts_solid]
  constructor
  · intro hrel
    obtain ⟨hroot, shared, climbs, rest, hplace, hpath, -, heq⟩ := Path.relative_eq hrel
    have hrest : ∀ part ∈ rest, IsSolid part := fun part hp =>
      Path.cleanParts_solid (hpath ▸ List.mem_append_right shared hp)
    obtain ⟨rfl, rfl⟩ := h.no_climb hrest heq
    rw [List.append_nil] at hplace
    exact ⟨hroot, by rw [hplace, hpath]⟩
  · rintro ⟨hroot, hparts⟩
    exact Path.relative_below hroot hparts.symm

example : (relative "../rules/." "../docs/../rules//a").toOption = some "a" ∧
    join ["../rules/.", "a"] = clean "../docs/../rules//a" := by decide +kernel

/-! ## Lookups -/

section
variable {α : Type} {workingDirectory path key : String} {store : Store}
  {inStore : Store → String → Id (Except Failure α)}

/-- A path that leads to a key is looked up at the key first. -/
theorem lookup_related (hrel : relative workingDirectory path = .ok key)
    (onHost : String → Id (Except Failure α)) :
    (Resolution.lookup ⟨workingDirectory, some store⟩ inStore onHost path).run =
      (Resolution.orHost (onHost path) key (inStore store key).run).run := by
  simp only [Resolution.lookup, hrel]
  rfl

theorem lookup_hits (hrel : relative workingDirectory path = .ok key) {value : α}
    (hin : inStore store key = .ok value) (onHost : String → Id (Except Failure α)) :
    (Resolution.lookup ⟨workingDirectory, some store⟩ inStore onHost path).run.result =
      .ok value := by
  rw [lookup_related hrel, hin]
  rfl

theorem lookup_misses (hrel : relative workingDirectory path = .ok key) {e : Failure}
    (hin : inStore store key = .error e) (onHost : String → Id (Except Failure α)) :
    (Resolution.lookup ⟨workingDirectory, some store⟩ inStore onHost path).run.result =
      onHost path := by
  rw [lookup_related hrel, hin]
  rfl

theorem lookup_unrelated {e : Path.NotRelative} (hrel : relative workingDirectory path = .error e)
    (onHost : String → Id (Except Failure α)) :
    (Resolution.lookup ⟨workingDirectory, some store⟩ inStore onHost path).run.result =
      onHost path := by
  simp only [Resolution.lookup, hrel]
  rfl

end

/-- Files in memory are inspected without asking the host. -/
theorem virtualStat_memory (host : Access) (m : Memory) (key : String) :
    Resolution.virtualStat host.asking (.memory m) key = (m.metadata key).map Metadata.stat := rfl

end GuestLint.Virtual
