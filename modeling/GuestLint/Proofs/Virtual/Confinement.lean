import GuestLint.Proofs.Virtual.Resolution

/-!
# What a view of a directory asks of the host

A view of a host directory puts the names of a virtual path behind its root and asks the host
there. A lookup through it is written for any way of asking; asked with a record, it tells which
paths the view has consulted and which the host was given as they came.

* `foldl_extend_inj`: names put behind a root can be read off the path that comes out.
* `hostPath_ok_iff`: the host paths of a view are its root extended by names.
* `runBy_gives`, `recorded_answer`: the record changes no answer.
* `viewed_directory`: what a view consults is the host path of the relative path, if both exist.
* `view_confined`: a view stays below its root, at the place that the guest's path spells.
-/
namespace GuestLint.Virtual

open GuestLint.Path (clean join relative render segments unsegment isAbsolute cleanParts)
open Host (Access Asking Failure FileStat extend)

/-! ## Names behind a root -/

/-- What stands in front of a name that is put behind a path. -/
def stem (path : String) : String :=
  if path = "" ∨ path.toList.getLast? = some '/' then path else path ++ "/"

theorem extend_eq (path name : String) : extend path name = stem path ++ name := by
  unfold extend stem
  by_cases hempty : path = ""
  · simp [hempty]
  · by_cases hlast : path.toList.getLast? = some '/'
    · simp [hempty, hlast]
    · simp [hempty, hlast]

/-- Behind a name there is a separator before the next one. -/
theorem stem_extend (path : String) {name : String} (hne : name ≠ "") (hflat : Path.IsFlat name) :
    stem (extend path name) = extend path name ++ "/" := by
  have hname : name.toList ≠ [] := fun h => hne (String.toList_eq_nil_iff.mp h)
  have hlast : (extend path name).toList.getLast? ≠ some '/' := by
    rw [extend_eq, String.toList_append, List.getLast?_append, List.getLast?_eq_some_getLast hname]
    exact fun h => hflat (Option.some.inj h ▸ List.getLast_mem hname)
  have hsome : extend path name ≠ "" := by
    rw [extend_eq]
    simp [hne]
  rw [stem, if_neg (not_or.mpr ⟨hsome, hlast⟩)]

theorem foldl_extend (root : String) {names : List String} (h : AreNames names)
    (hne : names ≠ []) : names.foldl extend root = stem root ++ unsegment names := by
  induction names generalizing root with
  | nil => exact absurd rfl hne
  | cons name names ih =>
    obtain ⟨hname, hflat⟩ := h name List.mem_cons_self
    rw [List.foldl_cons]
    cases names with
    | nil => simp [extend_eq, unsegment]
    | cons next rest =>
      rw [ih _ (fun part hp => h part (List.mem_cons_of_mem _ hp)) (by simp),
        stem_extend root hname.ne_empty hflat, extend_eq]
      simp [unsegment, String.intercalate_cons_cons, String.append_assoc]

theorem foldl_extend_ne (root : String) {names : List String} (h : AreNames names)
    (hne : names ≠ []) : names.foldl extend root ≠ root := by
  have hsome : (unsegment names).length ≠ 0 := by
    rw [← Path.render_unrooted hne]
    simpa using h.render_ne_empty
  have hstem : root.length ≤ (stem root).length := by
    unfold stem
    split <;> simp
  intro heq
  have hlength := congrArg String.length heq
  rw [foldl_extend root h hne, String.length_append] at hlength
  omega

/-- **Names behind a root.** Different names lead to different paths. -/
theorem foldl_extend_inj (root : String) {names names' : List String} (h : AreNames names)
    (h' : AreNames names') (heq : names.foldl extend root = names'.foldl extend root) :
    names = names' := by
  by_cases hne : names = []
  · subst hne
    by_cases hne' : names' = []
    · exact hne'.symm
    · exact absurd heq.symm (foldl_extend_ne root h' hne')
  · by_cases hne' : names' = []
    · subst hne'
      exact absurd heq (foldl_extend_ne root h hne)
    · rw [foldl_extend root h hne, foldl_extend root h' hne'] at heq
      have hsame := congrArg segments ((String.append_right_inj (stem root)).mp heq)
      rwa [Path.segments_unsegment hne fun part hp => (h part hp).2,
        Path.segments_unsegment hne' fun part hp => (h' part hp).2] at hsame

/-! ## Paths of a view -/

theorem names_render {names : List String} (h : AreNames names) :
    Directory.names (render false names) = names := by
  unfold Directory.names
  by_cases hne : names = []
  · subst hne
    decide
  · rw [h.segments_render hne]
    exact List.filter_eq_self.mpr fun part hp => by simpa using (h part hp).1.ne_dot

/-- **Paths of a view.** A view reaches the host at its root extended by the names that a virtual
path spells, and at no other path. -/
theorem hostPath_ok_iff (d : Directory) (path place : String) :
    d.hostPath path = .ok place ↔
      ∃ names, AreNames names ∧ path = render false names ∧ place = names.foldl extend d.root := by
  unfold Directory.hostPath
  constructor
  · intro h
    split at h
    · rename_i hvalid
      obtain ⟨names, hnames, rfl⟩ := (isValid_iff path).mp hvalid
      rw [names_render hnames] at h
      exact ⟨names, hnames, rfl, (Except.ok.inj h).symm⟩
    · cases h
  · rintro ⟨names, hnames, rfl, rfl⟩
    rw [if_pos ((isValid_iff _).mpr ⟨names, hnames, rfl⟩), names_render hnames]

/-- The place itself may be spelled by no name at all or by `.`. -/
theorem join_unsegment (place : String) {names : List String} (h : AreNames names) :
    join [place, unsegment names] = join [place, render false names] := by
  by_cases hne : names = []
  · subst hne
    rw [join_names place h, List.append_nil]
    by_cases hplace : place = ""
    · subst hplace
      decide
    · simp [join, unsegment, hplace, Path.clean_eq]
  · rw [Path.render_unrooted hne]

/-! ## Lookups that ask in any way -/

/-- The lookups of a guest. -/
inductive Operation where
  | read
  | stat
  | lstat

/-- What an operation finds. -/
def Operation.Found : Operation → Type
  | read => Bytes
  | stat => FileStat
  | lstat => FileStat

namespace Resolution

def run (r : Resolution) (host : Access) : (op : Operation) → String → Answer op.Found
  | .read, path => r.read host path
  | .stat, path => r.stat host path
  | .lstat, path => r.lstat host path

/-- An operation that asks through a view with `view`, and with `given` where it falls back. -/
def runBy {m : Type → Type} [Monad m] (r : Resolution) (view given : Asking m) :
    (op : Operation) → String → m (Answer op.Found)
  | .read, path => r.readBy view given path
  | .stat, path => r.statBy view given path
  | .lstat, path => r.lstatBy view given path

end Resolution

/-! ### Answers -/

/-- A way to tell what a computation gives that passes through `pure` and `bind`. -/
structure Observation (m : Type → Type) [Monad m] where
  Gives : {α : Type} → m α → α → Prop
  pure : ∀ {α : Type} (a : α), Gives (pure a) a
  bind : ∀ {α β : Type} {x : m α} {a : α} {f : α → m β} {b : β},
    Gives x a → Gives (f a) b → Gives (x >>= f) b

/-- Asking that gives what a host answers. -/
structure Faithful {m : Type → Type} [Monad m] (o : Observation m) (asking : Asking m)
    (host : Access) : Prop where
  read : ∀ path, o.Gives (asking.read path) (host.read path)
  stat : ∀ path, o.Gives (asking.stat path) (host.stat path)
  lstat : ∀ path, o.Gives (asking.lstat path) (host.lstat path)

section
variable {m : Type → Type} [Monad m] {o : Observation m} {view given : Asking m} {host : Access}

theorem Faithful.readBy (h : Faithful o view host) (s : Store) (path : String) :
    o.Gives (s.readBy view path) (s.read host path) := by
  cases s with
  | memory files => exact o.pure _
  | directory d =>
    show o.Gives (d.readBy view path) (d.readBy host.asking path).run
    unfold Directory.readBy
    cases d.hostPath path with
    | error e => exact o.pure _
    | ok place => exact h.read place

theorem Faithful.metadataBy (h : Faithful o view host) (s : Store) (path : String) :
    o.Gives (s.metadataBy view path) (s.metadata host path) := by
  cases s with
  | memory files => exact o.pure _
  | directory d =>
    show o.Gives (d.metadataBy view path) (d.metadataBy host.asking path).run
    unfold Directory.metadataBy
    cases d.hostPath path with
    | error e => exact o.pure _
    | ok place => exact o.bind (h.stat place) (o.pure _)

theorem Faithful.virtualStat (h : Faithful o view host) (s : Store) (path : String) :
    o.Gives (Resolution.virtualStat view s path)
      (Resolution.virtualStat host.asking s path).run :=
  o.bind (h.metadataBy s path) (o.pure _)

theorem Observation.lookup {α : Type} {inStore : Store → String → m (Except Failure α)}
    {onHost : String → m (Except Failure α)} {inStore' : Store → String → Id (Except Failure α)}
    {onHost' : String → Id (Except Failure α)}
    (hstore : ∀ store path, o.Gives (inStore store path) (inStore' store path).run)
    (hhost : ∀ path, o.Gives (onHost path) (onHost' path).run) (r : Resolution) (path : String) :
    o.Gives (r.lookup inStore onHost path) (r.lookup inStore' onHost' path).run := by
  unfold Resolution.lookup
  cases r.store with
  | none => exact o.bind (hhost path) (o.pure _)
  | some store =>
    cases hrel : relative r.workingDirectory path with
    | error e => exact o.bind (hhost path) (o.pure _)
    | ok rel =>
      have hrest : ∀ found, o.Gives (Resolution.orHost (onHost path) rel found)
          (Resolution.orHost (onHost' path) rel found).run := by
        intro found
        cases found with
        | ok value => exact o.pure _
        | error e => exact o.bind (hhost path) (o.pure _)
      exact o.bind (hstore store rel) (hrest _)

/-- **Answers.** However the host is asked, a lookup gives the guest the same answer. -/
theorem runBy_gives (hview : Faithful o view host) (hgiven : Faithful o given host)
    (r : Resolution) (op : Operation) (path : String) :
    o.Gives (r.runBy view given op path) (r.run host op path) := by
  cases op with
  | read => exact Observation.lookup hview.readBy hgiven.read r path
  | stat => exact Observation.lookup hview.virtualStat hgiven.stat r path
  | lstat => exact Observation.lookup hview.virtualStat hgiven.lstat r path

end

/-! ## Records -/

/-- Who asks the host: a view, at the path it has made, or the lookup, with the path as given. -/
inductive Asker where
  | view
  | lookup

structure Consultation where
  asker : Asker
  path : String

/-- Asking with a record of it. -/
def noting (asker : Asker) (host : Access) : Asking (StateM (List Consultation)) where
  read path := do
    modify (· ++ [⟨asker, path⟩])
    return host.read path
  stat path := do
    modify (· ++ [⟨asker, path⟩])
    return host.stat path
  lstat path := do
    modify (· ++ [⟨asker, path⟩])
    return host.lstat path

/-- The paths at which views have asked. -/
def viewedOf (record : List Consultation) : List String :=
  record.filterMap fun
    | ⟨.view, path⟩ => some path
    | ⟨.lookup, _⟩ => none

namespace Resolution

/-- An operation with the record of what it asks the host. -/
def recorded (r : Resolution) (host : Access) (op : Operation) (path : String) :
    Answer op.Found × List Consultation :=
  (r.runBy (noting .view host) (noting .lookup host) op path).run []

/-- The host paths that the view of a directory asks for in an operation. -/
def viewed (r : Resolution) (host : Access) (op : Operation) (path : String) : List String :=
  viewedOf (r.recorded host op path).2

end Resolution

/-- The record changes no answer. -/
theorem recorded_answer (r : Resolution) (host : Access) (op : Operation) (path : String) :
    (r.recorded host op path).1 = r.run host op path :=
  let o : Observation (StateM (List Consultation)) :=
    ⟨fun x a => ∀ record, (x.run record).1 = a, fun _ _ => rfl, fun {_ _ x a f b} hx hf record => by
      show ((f (x.run record).1).run (x.run record).2).1 = b
      rw [hx record]
      exact hf _⟩
  have faithful (asker : Asker) : Faithful o (noting asker host) host :=
    ⟨fun _ _ => rfl, fun _ _ => rfl, fun _ _ => rfl⟩
  runBy_gives (faithful .view) (faithful .lookup) r op path []

/-- A computation that adds some paths to those at which views have asked. -/
def Views {α : Type} (x : StateM (List Consultation) α) (places : List String) : Prop :=
  ∀ record, viewedOf (x.run record).2 = viewedOf record ++ places

namespace Views
variable {α β : Type} {host : Access} {path : String}

theorem pure (a : α) : Views (pure a) [] := fun record => by
  show viewedOf record = _
  rw [List.append_nil]

theorem bind {x : StateM (List Consultation) α} {f : α → StateM (List Consultation) β}
    {places more : List String} (hx : Views x places) (hf : ∀ a, Views (f a) more) :
    Views (x >>= f) (places ++ more) := fun record => by
  show viewedOf ((f (x.run record).1).run (x.run record).2).2 = _
  rw [hf, hx, List.append_assoc]

/-- What is done with an answer asks for nothing more. -/
theorem map {x : StateM (List Consultation) α} {places : List String} (hx : Views x places)
    (f : α → β) : Views (do return f (← x)) places := by
  have := hx.bind fun a => pure (f a)
  rwa [List.append_nil] at this

theorem modify_view : Views (modify (· ++ [⟨.view, path⟩])) [path] := fun _ =>
  List.filterMap_append

theorem modify_lookup : Views (modify (· ++ [⟨.lookup, path⟩])) [] := fun _ =>
  List.filterMap_append

end Views

/-- The host path at which a view asks for a virtual path. -/
def Directory.asked (d : Directory) (path : String) : List String :=
  (d.hostPath path).toOption.toList

theorem views_readBy (host : Access) (d : Directory) (path : String) :
    Views ((Store.directory d).readBy (noting .view host) path) (d.asked path) := by
  show Views (d.readBy _ path) _
  unfold Directory.readBy Directory.asked
  cases d.hostPath path with
  | error e => exact .pure _
  | ok place => exact Views.modify_view.map fun _ => host.read place

theorem views_virtualStat (host : Access) (d : Directory) (path : String) :
    Views (Resolution.virtualStat (noting .view host) (.directory d) path) (d.asked path) := by
  refine Views.map ?_ _
  show Views (d.metadataBy _ path) _
  unfold Directory.metadataBy Directory.asked
  cases d.hostPath path with
  | error e => exact .pure _
  | ok place => exact (Views.modify_view.map fun _ => host.stat place).map _

/-- The fallback is no asking of the view. -/
theorem views_lookup {α : Type} {d : Directory} {workingDirectory : String}
    {inStore : Store → String → StateM (List Consultation) (Except Failure α)}
    {onHost : String → StateM (List Consultation) (Except Failure α)}
    (hstore : ∀ rel, Views (inStore (.directory d) rel) (d.asked rel))
    (hhost : ∀ path, Views (onHost path) []) (path : String) :
    Views (Resolution.lookup ⟨workingDirectory, some (.directory d)⟩ inStore onHost path)
      (match relative workingDirectory path with
        | .ok rel => d.asked rel
        | .error _ => []) := by
  unfold Resolution.lookup
  simp only
  cases relative workingDirectory path with
  | error e => exact (hhost path).map _
  | ok rel =>
    have hrest : ∀ found, Views (Resolution.orHost (onHost path) rel found) [] := by
      intro found
      cases found with
      | ok value => exact .pure _
      | error e => exact (hhost path).map _
    have hboth := (hstore rel).bind hrest
    rwa [List.append_nil] at hboth

/-- **Consultations.** Whatever the operation, the view of a directory asks the host at most once,
at the host path of the way that leads to the guest's path. -/
theorem viewed_directory (workingDirectory : String) (d : Directory) (host : Access)
    (op : Operation) (path : String) :
    Resolution.viewed ⟨workingDirectory, some (.directory d)⟩ host op path =
      match relative workingDirectory path with
      | .ok rel => d.asked rel
      | .error _ => [] := by
  have hlookup (stat : String → Except Failure FileStat) (path : String) :
      Views (do modify (· ++ [⟨.lookup, path⟩]); return stat path) [] :=
    Views.modify_lookup.map fun _ => stat path
  cases op with
  | read =>
    exact views_lookup (views_readBy host d)
      (fun path => Views.modify_lookup.map fun _ => host.read path) path []
  | stat => exact views_lookup (views_virtualStat host d) (hlookup host.stat) path []
  | lstat => exact views_lookup (views_virtualStat host d) (hlookup host.lstat) path []

/-- Where a view asks, names lead from its root to the place that the guest's path spells. -/
theorem mem_viewed_iff (workingDirectory : String) (d : Directory) (host : Access)
    (op : Operation) (path place : String) :
    place ∈ Resolution.viewed ⟨workingDirectory, some (.directory d)⟩ host op path ↔
      ∃ names, AreNames names ∧ place = names.foldl extend d.root ∧
        join [workingDirectory, unsegment names] = clean path := by
  rw [viewed_directory]
  constructor
  · intro h
    cases hrel : relative workingDirectory path with
    | error e =>
      rw [hrel] at h
      cases h
    | ok rel =>
      rw [hrel] at h
      cases hplace : d.hostPath rel with
      | error e =>
        simp only [Directory.asked, hplace] at h
        cases h
      | ok found =>
        simp only [Directory.asked, hplace] at h
        obtain rfl := List.mem_singleton.mp h
        obtain ⟨names, hnames, rfl, rfl⟩ := (hostPath_ok_iff d rel place).mp hplace
        refine ⟨names, hnames, rfl, ?_⟩
        rw [join_unsegment _ hnames]
        exact (relative_iff_join ((isValid_iff _).mpr ⟨names, hnames, rfl⟩)).mp hrel
  · rintro ⟨names, hnames, rfl, hjoin⟩
    rw [join_unsegment _ hnames] at hjoin
    have hplace := (hostPath_ok_iff d _ _).mpr ⟨names, hnames, rfl, rfl⟩
    rw [(relative_iff_join ((isValid_iff _).mpr ⟨names, hnames, rfl⟩)).mpr hjoin]
    simp only [Directory.asked, hplace]
    exact List.mem_singleton_self _

/-- **Confinement.** Whatever a guest looks up, a view of a directory asks the host exactly at its
root extended by the names that, joined to the working directory, spell the guest's path. It asks
for nothing where no relative path leads to the guest's, or where that climbs. Guest paths that
clean to different ones are never looked for at the same place. -/
theorem view_confined (workingDirectory root : String) (host : Access) (op : Operation)
    (path : String) :
    let r : Resolution := ⟨workingDirectory, some (.directory ⟨root⟩)⟩
    (r.recorded host op path).1 = r.run host op path ∧
      (∀ place, place ∈ r.viewed host op path ↔ ∃ names, AreNames names ∧
        place = names.foldl extend root ∧ join [workingDirectory, unsegment names] = clean path) ∧
      ((∀ rel, relative workingDirectory path = .ok rel → ".." ∈ segments rel) →
        r.viewed host op path = []) ∧
      ∀ (host' : Access) (op' : Operation) (other : String), clean other ≠ clean path →
        ∀ place ∈ r.viewed host op path, place ∉ r.viewed host' op' other := by
  intro r
  refine ⟨recorded_answer r host op path, mem_viewed_iff _ _ host op path, fun hclimbs => ?_,
    fun host' op' other hne place hplace hother => ?_⟩
  · refine List.eq_nil_iff_forall_not_mem.mpr fun place hplace => ?_
    obtain ⟨names, hnames, -, hjoin⟩ := (mem_viewed_iff _ _ host op path place).mp hplace
    rw [join_unsegment _ hnames] at hjoin
    have hrel := (relative_iff_join ((isValid_iff _).mpr ⟨names, hnames, rfl⟩)).mpr hjoin
    have hup := hclimbs _ hrel
    by_cases hsome : names = []
    · subst hsome
      exact absurd hup (by decide)
    · rw [hnames.segments_render hsome] at hup
      exact (hnames _ hup).1.ne_up rfl
  · obtain ⟨names, hnames, rfl, hjoin⟩ := (mem_viewed_iff _ _ host op path _).mp hplace
    obtain ⟨names', hnames', hsame, hjoin'⟩ := (mem_viewed_iff _ _ host' op' other _).mp hother
    rw [foldl_extend_inj root hnames hnames' hsame, hjoin'] at hjoin
    exact hne hjoin

example (host : Access) : Resolution.viewed ⟨"/work/.", some (.directory ⟨"/srv"⟩)⟩ host .stat
    "/work//d/../e/p" = ["/srv/e/p"] := by
  rw [viewed_directory]
  decide +kernel

end GuestLint.Virtual
