import GuestLint.Proofs.Guest.Clear

/-!
# Computations that reach nothing hidden

`Guards` says of a computation that it stays within, and that what it ends with is clear; `Yields`
says so of one that ends with a place. They are classes, so that for a computation that is put
together from others the instances for those are found by themselves.

* `Guards.andThen`, `Guards.tryCatch` and their like: the ways of putting computations together.
* The instances: the operations on objects, logs and stored values.
-/
namespace GuestLint.Guest

variable {s : Seal} {n m : Nat} {α β γ : Type}

/-- The computation stays within, and what it ends with is clear. -/
class Guards (s : Seal) (n : Nat) [Refers α] (x : Machine α) : Prop where
  ensures : Ensures s n (fun m => Refers.clear s m) x

/-- The computation stays within, and the place that it ends with is visible. -/
class Yields (s : Seal) (n : Nat) (x : Machine Ref) : Prop where
  ensures : Ensures s n (Visible s) x

/-- Calls stay within: what is called, and what it is given, is clear. -/
class Contained (s : Seal) (call : Call) : Prop where
  guards : ∀ n f this args [Clear s n f] [Clear s n this] [Clear s n args],
    Guards s n (call f this args)

/-! ## Putting computations together -/

namespace Guards

instance pure [Refers α] (a : α) [ha : Clear s n a] : Guards s n (Pure.pure a) :=
  ⟨.pure fun _ hle => Refers.mono hle ha.clear⟩

instance throw [Refers α] (e : Stop) [he : Clear s n e] :
    Guards s n (MonadExcept.throw e : Machine α) := ⟨.throw he.clear⟩

instance throwThe [Refers α] (e : Stop) [he : Clear s n e] :
    Guards s n (MonadExceptOf.throw e : Machine α) := ⟨.throw he.clear⟩

section
variable [Refers α] [Refers β]

/-- One computation after another. The second one holds what the first one has ended with. -/
theorem andThen {x : Machine α} {f : α → Machine β} (hx : Guards s n x)
    (hf : ∀ k (hle : n ≤ k) a (ha : Refers.clear s k a), Guards s (holding hle ha) (f a)) :
    Guards s n (x >>= f) :=
  ⟨hx.ensures.bind fun k a hle ha => (hf k hle a ha).ensures⟩

theorem andThenAt {x : Machine Ref} {f : Ref → Machine β} (hx : Yields s n x)
    (hf : ∀ k (hle : n ≤ k) r (hr : Visible s k r), Guards s (holdingPlace hle hr) (f r)) :
    Guards s n (x >>= f) :=
  ⟨hx.ensures.bind fun k r hle hr => (hf k hle r hr).ensures⟩

instance (priority := low) bind {x : Machine α} {f : α → Machine β} [hx : Guards s n x]
    [hf : ∀ k (hle : n ≤ k) a (ha : Refers.clear s k a), Guards s (holding hle ha) (f a)] :
    Guards s n (x >>= f) := hx.andThen hf

instance bindAt {x : Machine Ref} {f : Ref → Machine β} [hx : Yields s n x]
    [hf : ∀ k (hle : n ≤ k) r (hr : Visible s k r), Guards s (holdingPlace hle hr) (f r)] :
    Guards s n (x >>= f) := andThenAt hx hf

instance (priority := low) map {x : Machine α} {f : α → β} [hx : Guards s n x]
    [hf : ∀ k (hle : n ≤ k) a (ha : Refers.clear s k a), Clear s (holding hle ha) (f a)] :
    Guards s n (f <$> x) := by
  rw [← bind_pure_comp]
  infer_instance

instance mapAt {x : Machine Ref} {f : Ref → β} [hx : Yields s n x]
    [hf : ∀ k (hle : n ≤ k) r (hr : Visible s k r), Clear s (holdingPlace hle hr) (f r)] :
    Guards s n (f <$> x) := by
  rw [← bind_pure_comp]
  infer_instance

instance bindLeft {x : Machine α} {f : α → Machine β} [hx : Guards s n x]
    [hf : ∀ k (hle : n ≤ k) a (ha : Refers.clear s k a), Guards s (holding hle ha) (f a)] :
    Guards s n (f =<< x) := hx.andThen hf

instance tryCatch {x : Machine α} {f : Stop → Machine α} [hx : Guards s n x]
    [hf : ∀ k (hle : n ≤ k) e (he : Refers.clear s k e), Guards s (holding hle he) (f e)] :
    Guards s n (MonadExcept.tryCatch x f) :=
  ⟨hx.ensures.tryCatch fun k e hle he => (hf k hle e he).ensures⟩

instance tryCatchThe {x : Machine α} {f : Stop → Machine α} [Guards s n x]
    [∀ k (hle : n ≤ k) e (he : Refers.clear s k e), Guards s (holding hle he) (f e)] :
    Guards s n (tryCatchThe Stop x f) := tryCatch

instance ite {c : Prop} [Decidable c] {x y : Machine α} [Guards s n x] [Guards s n y] :
    Guards s n (if c then x else y) := by
  split <;> infer_instance

theorem later {x : Machine α} (hx : Guards s n x) {k : Nat} (hle : n ≤ k) : Guards s k x :=
  ⟨hx.ensures.mono hle fun _ _ _ h => h⟩

/-- A loop holds one element at a time. -/
instance forIn {xs : List α} {f : α → PUnit → Machine (ForInStep PUnit)} [hxs : Clear s n xs]
    [hf : ∀ k (hle : n ≤ k) a (ha : Refers.clear s k a), Guards s (holding hle ha) (f a ⟨⟩)] :
    Guards s n (ForIn.forIn xs PUnit.unit f) := by
  have hloop : ∀ k, n ≤ k → Guards s k (ForIn.forIn xs PUnit.unit f) := by
    have hmem := hxs.clear
    clear hxs
    induction xs with
    | nil => exact fun k _ => pure _
    | cons x xs ih =>
      intro k hle
      rw [List.forIn_cons]
      refine (hf k hle x (Refers.mono hle (hmem x List.mem_cons_self))).andThen
        fun k' hle' u _ => ?_
      cases u with
      | done u => exact pure u
      | yield u =>
        exact ih (fun a ha => hmem a (List.mem_cons_of_mem _ ha)) k' (Nat.le_trans hle hle')
  exact hloop n (Nat.le_refl n)

instance mapM {xs : List α} {f : α → Machine β} [hxs : Clear s n xs]
    [hf : ∀ k (hle : n ≤ k) a (ha : Refers.clear s k a), Guards s (holding hle ha) (f a)] :
    Guards s n (xs.mapM f) :=
  ⟨.mapM (P := fun m => Refers.clear s m) Refers.mono Refers.mono hxs.clear
    fun k a hle ha => (hf k hle a ha).ensures⟩

instance optionMapM {o : Option α} {f : α → Machine β} [ho : Clear s n o]
    [hf : ∀ k (hle : n ≤ k) a (ha : Refers.clear s k a), Guards s (holding hle ha) (f a)] :
    Guards s n (o.mapM f) := by
  cases o with
  | none => exact pure none
  | some a =>
    have : Guards s n (f a) := hf n (Nat.le_refl n) a (ho.clear a rfl)
    exact inferInstanceAs (Guards s n (some <$> f a))

end
end Guards

instance (priority := low) {call : Call} [h : Contained s call] {f this : Value}
    {args : List Value} [Clear s n f] [Clear s n this] [Clear s n args] :
    Guards s n (call f this args) := h.guards n f this args

namespace Yields

instance pure (r : Ref) [hr : Visible s n r] : Yields s n (Pure.pure r) :=
  ⟨.pure fun _ hle => hr.mono hle⟩

theorem andThen [Refers α] {x : Machine α} {f : α → Machine Ref} (hx : Guards s n x)
    (hf : ∀ k (hle : n ≤ k) a (ha : Refers.clear s k a), Yields s (holding hle ha) (f a)) :
    Yields s n (x >>= f) :=
  ⟨hx.ensures.bind fun k a hle ha => (hf k hle a ha).ensures⟩

theorem andThenAt {x : Machine Ref} {f : Ref → Machine Ref} (hx : Yields s n x)
    (hf : ∀ k (hle : n ≤ k) r (hr : Visible s k r), Yields s (holdingPlace hle hr) (f r)) :
    Yields s n (x >>= f) :=
  ⟨hx.ensures.bind fun k r hle hr => (hf k hle r hr).ensures⟩

instance (priority := low) bind [Refers α] {x : Machine α} {f : α → Machine Ref}
    [hx : Guards s n x]
    [hf : ∀ k (hle : n ≤ k) a (ha : Refers.clear s k a), Yields s (holding hle ha) (f a)] :
    Yields s n (x >>= f) := andThen hx hf

instance bindAt {x : Machine Ref} {f : Ref → Machine Ref} [hx : Yields s n x]
    [hf : ∀ k (hle : n ≤ k) r (hr : Visible s k r), Yields s (holdingPlace hle hr) (f r)] :
    Yields s n (x >>= f) := andThenAt hx hf

end Yields

/-! ## The operations on objects -/

instance : Guards s n (get : Machine World) := ⟨ensures_get⟩

instance : Guards s n heap := ⟨ensures_heap⟩

instance {o : Object} [Fresh o] [ho : Clear s n o] : Yields s n (allocate o) :=
  ⟨ensures_allocate ho.clear⟩

instance (v : Value) [hv : Clear s n v] [Refers α] : Guards s n (throwValue v : Machine α) :=
  ⟨.throw (e := .thrown v) hv.clear⟩

instance (v : Value) [hv : Clear s n v] : Yields s n (throwValue v) :=
  ⟨.throw (e := .thrown v) hv.clear⟩

instance [Refers α] : Guards s n (runForever : Machine α) := ⟨.throw (e := .endless) trivial⟩

theorem clear_putProperty {name : String} {p : Property} {ps : List (String × Property)}
    (hp : Refers.clear s n p) (hps : Refers.clear s n ps) :
    Refers.clear s n (putProperty name p ps) := by
  induction ps with
  | nil =>
    intro q hq
    cases List.mem_singleton.mp hq
    exact ⟨trivial, hp⟩
  | cons q ps ih =>
    obtain ⟨k, q⟩ := q
    unfold putProperty
    intro q' hq'
    split at hq'
    · obtain rfl | hq' := List.mem_cons.mp hq'
      · exact ⟨trivial, hp⟩
      · exact hps q' (List.mem_cons_of_mem _ hq')
    · obtain rfl | hq' := List.mem_cons.mp hq'
      · exact hps _ List.mem_cons_self
      · exact ih (fun a ha => hps a (List.mem_cons_of_mem _ ha)) q' hq'

section
variable {r : Ref} [hr : Visible s n r]

instance (name : String) (v : Value) [hv : Clear s n v] : Guards s n (assign r name v) :=
  ⟨ensures_modifyObject hr
    (fun _ _ hle ho => ⟨ho.kind, ho.parent,
      clear_putProperty (Refers.mono hle hv.clear) ho.properties⟩)
    fun _ => .inl rfl⟩

instance (name : String) (v : Value) [hv : Clear s n v] : Guards s n (assignHidden r name v) :=
  ⟨ensures_modifyObject hr
    (fun _ _ hle ho => ⟨ho.kind, ho.parent,
      clear_putProperty (Refers.mono hle hv.clear) ho.properties⟩)
    fun _ => .inl rfl⟩

instance (name : String) : Guards s n (deleteProperty r name) :=
  ⟨ensures_modifyObject hr
    (fun _ _ _ ho => ⟨ho.kind, ho.parent,
      fun p hp => ho.properties p (List.mem_filter.mp hp).1⟩)
    fun _ => .inl rfl⟩

end

instance {fields : List (String × Value)} [Clear s n fields] : Yields s n (makeRecord fields) := by
  unfold makeRecord
  infer_instance

instance {items : List Value} [Clear s n items] : Guards s n (makeList items) := by
  unfold makeList
  infer_instance

instance (name : String) {f : Function} [Clear s n f] : Yields s n (makeFunction name f) := by
  unfold makeFunction functionObject
  infer_instance

instance (name : String) {f : Function} {parent : Ref} [Clear s n f] [Visible s n parent] :
    Yields s n (makeConstructor name f parent) := by
  unfold makeConstructor
  infer_instance

instance : Yields s n makeParent := by
  unfold makeParent
  infer_instance

instance (name message : String) : Yields s n (makeError name message) := by
  unfold makeError
  infer_instance

instance (name message : String) [Refers α] : Guards s n (raise name message : Machine α) := by
  unfold raise
  infer_instance

instance (name message : String) : Yields s n (raise name message) := by
  unfold raise
  infer_instance

instance {x : Machine α} {f : Value → Machine α} [Refers α] [Guards s n x]
    [hf : ∀ k (hle : n ≤ k) v (hv : Refers.clear s k v), Guards s (holding hle hv) (f v)] :
    Guards s n (rescue x f) := by
  have hcaught : ∀ k (hle : n ≤ k) (stop : Stop) (hstop : Refers.clear s k stop),
      Guards s (holding hle hstop) (match stop with
        | .thrown v => f v
        | stop => throw stop) := fun k hle stop hstop => by
    cases stop with
    | thrown v => exact (hf k hle v hstop).later (Nat.le_refl k)
    | _ => infer_instance
  exact Guards.tryCatch

instance {x : Machine α} [Refers α] [Guards s n x] : Guards s n (attempt x) := by
  unfold attempt
  infer_instance

/-- A change of what is neither an object nor a job. -/
theorem Guards.change {f : World → World} (hheap : ∀ w, (f w).heap = w.heap)
    (hjobs : ∀ w, (f w).jobs = w.jobs) (hsurroundings : ∀ w, (f w).surroundings = w.surroundings)
    (hclear : ∀ m w, n ≤ m → Refers.clear s m w → Refers.clear s m (f w)) :
    Guards s n (modify f : Machine Unit) := ⟨ensures_modify hheap hjobs hsurroundings hclear⟩

/-- The parts of a world that guests work with or that stay as they are. -/
def World.guestParts (w : World) : Heap × List Job × Surroundings ×
    Array (Stream.Channel Value Value) × List (String × Value) × List (String × Value) :=
  (w.heap, w.jobs, w.surroundings, w.channels, w.stored, w.kept)

/-- What is hidden in a world depends on these parts only. -/
theorem Sealed.congr {w w' : World} (h : w'.guestParts = w.guestParts) (hw : Sealed s w) :
    Sealed s w' := by
  simp only [World.guestParts, Prod.mk.injEq] at h
  obtain ⟨hheap, -, -, -, -, -⟩ := id h
  obtain ⟨-, hjobs, -, hchannels, hstored, hkept⟩ := h
  have hclear := hw.clear
  rw [← hheap] at hclear
  refine ⟨hheap ▸ hw.based, hheap ▸ hw.bounded, hheap ▸ hw.watched, ⟨?_, ?_, ?_, ?_, ?_⟩⟩
  · exact hheap ▸ hclear.heap
  · exact hjobs ▸ hclear.jobs
  · exact hchannels ▸ hclear.channels
  · exact hstored ▸ hclear.stored
  · exact hkept ▸ hclear.kept

/-- A change of what refers to no objects. -/
theorem Guards.changePlain {f : World → World} (h : ∀ w, (f w).guestParts = w.guestParts) :
    Guards s n (modify f : Machine Unit) := by
  simp only [World.guestParts, Prod.mk.injEq] at h
  refine .change (fun w => (h w).1) (fun w => (h w).2.1) (fun w => (h w).2.2.1) fun m w _ hw => ?_
  obtain ⟨hheap, hjobs, -, hchannels, hstored, hkept⟩ := h w
  exact ⟨hheap ▸ hw.heap, hjobs ▸ hw.jobs, hchannels ▸ hw.channels, hstored ▸ hw.stored,
    hkept ▸ hw.kept⟩

/-- A change that goes along with something read off the world. -/
theorem Guards.draw [Refers α] {g : World → α} {f : World → World}
    (hg : ∀ m w, Refers.clear s m (g w)) (hf : Guards s n (modify f : Machine Unit)) :
    Guards s n (modifyGet fun w => (g w, f w) : Machine α) :=
  ⟨fun w hle hw => ⟨(hf.ensures w hle hw).1, hg _ w⟩⟩

instance (frame : Frame) {x : Machine α} [Refers α] [hx : Guards s n x] :
    Guards s n (atPlace frame x) := by
  have hset : ∀ {m} (frames : World → List Frame),
      Guards s m (modify fun w => { w with frames := frames w } : Machine Unit) := fun _ =>
    .changePlain fun _ => rfl
  have hleave : ∀ {m} frames, Guards s m
      (modify fun w => { w with frames := frames } : Machine Unit) := fun frames =>
    hset fun _ => frames
  unfold atPlace
  refine Guards.andThen inferInstance fun k hle w _ => (hset _).andThen fun k' hle' _ _ => ?_
  have := hx.later (k := k') (Nat.le_trans hle hle')
  exact Guards.andThen (inferInstanceAs (Guards s k' _)) inferInstance

instance (v : Value) [Clear s n v] (name : String) : Guards s n (getProperty v name) := by
  unfold getProperty
  split <;> infer_instance

instance {call : Call} [Contained s call] (v : Value) [Clear s n v] (name : String)
    (args : List Value) [Clear s n args] : Guards s n (callMethod call v name args) := by
  unfold callMethod
  infer_instance

/-! ## Logs and stored values -/

instance (level : LogLevel) (text : String) (stream : Option String) :
    Guards s n (log level text stream) :=
  .changePlain fun _ => rfl

instance (answer : Virtual.Answer α) [Refers α] [Plain α] : Guards s n (lookedUp answer) := by
  unfold lookedUp
  infer_instance

instance (args : List Value) : Guards s n (logCall args) :=
  .changePlain fun _ => rfl

instance (text : String) : Guards s n (noteText text) :=
  .changePlain fun _ => rfl

instance (key : String) : Guards s n (countRun key) := by
  have hcount : ∀ {m} before, Guards s m (modify fun w =>
      { w with runs := (key, before + 1) :: w.runs.filter (·.1 ≠ key) } : Machine Unit) :=
    fun _ => .changePlain fun _ => rfl
  unfold countRun
  infer_instance

instance (name : String) (v : Value) [hv : Clear s n v] : Guards s n (storeValue name v) :=
  .change (fun _ => rfl) (fun _ => rfl) (fun _ => rfl) fun _ _ hle h =>
    ⟨h.heap, h.jobs, h.channels, fun entry hentry => by
      obtain rfl | hentry := List.mem_cons.mp hentry
      · exact ⟨trivial, Refers.mono hle hv.clear⟩
      · exact h.stored entry (List.mem_filter.mp hentry).1, h.kept⟩

instance (name : String) : Guards s n (storedValue name) := by
  unfold storedValue
  infer_instance

end GuestLint.Guest
