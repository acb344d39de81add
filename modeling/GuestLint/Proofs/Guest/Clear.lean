import GuestLint.Proofs.Guest.Seal

/-!
# Data that refers to nothing hidden

That a piece of data is clear is found from what it is made of. The search starts from what is known
of the data that a computation holds, which is kept in the size of the heap: see `holding`.

* `Clear`: the class. Its instances go along the ways in which values, objects and heaps are put
  together and taken apart.
-/
namespace GuestLint.Guest

variable {s : Seal} {n : Nat} {α β : Type}

/-- The size of a heap that has grown, from which on some data is held. That the data is clear is
part of the term, where the search for instances finds it. -/
def holding [Refers α] {n k : Nat} (_ : n ≤ k) {a : α} (_ : Refers.clear s k a) : Nat := k

/-- The same for a place. -/
def holdingPlace {n k : Nat} (_ : n ≤ k) {r : Ref} (_ : Visible s k r) : Nat := k

/-- The data refers to visible places only. -/
class Clear (s : Seal) (n : Nat) [Refers α] (a : α) : Prop where
  clear : Refers.clear s n a

section
variable [Refers α] {k : Nat} {hle : n ≤ k} {a : α} {ha : Refers.clear s k a} {r : Ref}
  {hr : Visible s k r}

instance : Clear s (holding hle ha) a := ⟨ha⟩

instance : Visible s (holdingPlace hle hr) r := hr

/-! What is held may be one of several forms, and known to be of one of them. -/

instance [Refers β] {b : β} {hb : Refers.clear s k (Except.ok b : Except α β)} :
    Clear s (holding hle hb) b := ⟨hb⟩

instance [Refers β] {b : β} {hb : Refers.clear s k (Except.error b : Except β α)} :
    Clear s (holding hle hb) b := ⟨hb⟩

/-! What was held before is held still. -/

instance (priority := low) [Refers β] {b : β} [hb : Clear s n b] : Clear s (holding hle ha) b :=
  ⟨Refers.mono hle hb.clear⟩

instance (priority := low) [Refers β] {b : β} [hb : Clear s n b] :
    Clear s (holdingPlace hle hr) b := ⟨Refers.mono hle hb.clear⟩

instance (priority := low) {r' : Ref} [h : Visible s n r'] : Visible s (holding hle ha) r' :=
  h.mono hle

instance (priority := low) {r' : Ref} [h : Visible s n r'] : Visible s (holdingPlace hle hr) r' :=
  h.mono hle

end

/-- All data of the type is clear. -/
class Plain (α : Type) [Refers α] : Prop where
  plain : ∀ s n (a : α), Refers.clear s n a

instance : @Plain α plainRefers := @Plain.mk α plainRefers fun _ _ _ => trivial

section
variable [Refers α] [Refers β]

instance [Plain α] : Plain (List α) := ⟨fun _ _ _ _ _ => Plain.plain _ _ _⟩

instance [Plain α] : Plain (Option α) := ⟨fun _ _ _ _ _ => Plain.plain _ _ _⟩

instance [Plain α] [Plain β] : Plain (α × β) :=
  ⟨fun _ _ _ => ⟨Plain.plain _ _ _, Plain.plain _ _ _⟩⟩

instance [Plain α] [Plain β] : Plain (Except α β) :=
  ⟨fun s n r => by
    cases r with
    | ok b => exact Plain.plain s n b
    | error a => exact Plain.plain s n a⟩

instance [Plain α] (a : α) : Clear s n a := ⟨Plain.plain s n a⟩

instance {c : Prop} [Decidable c] {a b : α} [ha : Clear s n a] [hb : Clear s n b] :
    Clear s n (if c then a else b) := by
  split
  · exact ha
  · exact hb

/-! ### Values -/

instance : Clear s n Value.undefined := ⟨trivial⟩
instance : Clear s n Value.null := ⟨trivial⟩
instance (b : Bool) : Clear s n (Value.boolean b) := ⟨trivial⟩
instance (x : Double) : Clear s n (Value.number x) := ⟨trivial⟩
instance (k : Int) : Clear s n (Value.big k) := ⟨trivial⟩
instance (t : String) : Clear s n (Value.text t) := ⟨trivial⟩
instance (id : Nat) (d : String) : Clear s n (Value.symbol id d) := ⟨trivial⟩
instance (k : Int) : Clear s n (Value.ofInt k) := ⟨trivial⟩
instance (k : Nat) : Clear s n (Value.ofNat k) := ⟨trivial⟩
instance (cs : List Char) : Clear s n (Value.ofChars cs) := ⟨trivial⟩
instance (r : Ref) [h : Visible s n r] : Clear s n (Value.object r) := ⟨h⟩
instance (r : Ref) [h : Clear s n (Value.object r)] : Visible s n r := h.clear

instance {v : Value} [h : Clear s n v] : Clear s n (Stop.thrown v) := ⟨h.clear⟩
instance : Clear s n Stop.endless := ⟨trivial⟩
instance (message : String) : Clear s n (Stop.fault message) := ⟨trivial⟩

/-! ### Lists, options and pairs -/

instance : Clear s n ([] : List α) := ⟨fun _ h => nomatch h⟩

instance {a : α} {as : List α} [ha : Clear s n a] [has : Clear s n as] : Clear s n (a :: as) :=
  ⟨fun b hb => by
    obtain rfl | hb := List.mem_cons.mp hb
    · exact ha.clear
    · exact has.clear b hb⟩

theorem Clear.mem {a : α} {as : List α} (h : Clear s n as) (ha : a ∈ as) : Clear s n a :=
  ⟨h.clear a ha⟩

theorem Clear.of_sublist {as bs : List α} (h : Clear s n bs) (hsub : ∀ a ∈ as, a ∈ bs) :
    Clear s n as := ⟨fun a ha => h.clear a (hsub a ha)⟩

instance {as bs : List α} [ha : Clear s n as] [hb : Clear s n bs] : Clear s n (as ++ bs) :=
  ⟨fun a h => (List.mem_append.mp h).elim (ha.clear a) (hb.clear a)⟩

instance {as : List α} {f : α → β} [has : Clear s n as]
    [hf : ∀ a (ha : Refers.clear s n a), Clear s (holding (Nat.le_refl n) ha) (f a)] :
    Clear s n (as.map f) :=
  ⟨fun b hb => by
    obtain ⟨a, ha, rfl⟩ := List.mem_map.mp hb
    exact (hf a (has.clear a ha)).clear⟩

instance {as : List α} [has : Clear s n as] (k : Nat) : Clear s n (as.drop k) :=
  has.of_sublist fun _ => List.mem_of_mem_drop

instance {as : List α} [has : Clear s n as] (k : Nat) : Clear s n as[k]? :=
  ⟨fun _ h => has.clear _ (List.mem_of_getElem? h)⟩

instance {as : List α} [has : Clear s n as] : Clear s n as.getLast? :=
  ⟨fun _ h => has.clear _ (List.mem_of_getLast? h)⟩

instance {as : List α} [has : Clear s n as] : Clear s n as.head? :=
  ⟨fun _ h => has.clear _ (List.mem_of_head? h)⟩

instance {as : List α} [has : Clear s n as] : Clear s n as.zipIdx :=
  ⟨fun _ h => ⟨has.clear _ (List.fst_mem_of_mem_zipIdx h), Plain.plain _ _ _⟩⟩

instance {ass : List (List α)} [has : Clear s n ass] : Clear s n ass.flatten :=
  ⟨fun a h => by
    obtain ⟨as, has', ha⟩ := List.mem_flatten.mp h
    exact has.clear as has' a ha⟩

instance : Clear s n (none : Option α) := ⟨fun _ h => nomatch h⟩

instance {a : α} [ha : Clear s n a] : Clear s n (some a) :=
  ⟨fun b hb => by cases hb; exact ha.clear⟩

theorem Clear.of_some {a : α} (h : Clear s n (some a)) : Clear s n a := ⟨h.clear a rfl⟩

instance {o : Option α} {a : α} [ho : Clear s n o] [ha : Clear s n a] : Clear s n (o.getD a) := by
  cases o with
  | none => exact ha
  | some b => exact ho.of_some

instance {o : Option α} {f : α → β} [ho : Clear s n o]
    [hf : ∀ a (ha : Refers.clear s n a), Clear s (holding (Nat.le_refl n) ha) (f a)] :
    Clear s n (o.map f) :=
  ⟨fun b hb => by
    obtain ⟨a, ha, rfl⟩ := Option.map_eq_some_iff.mp hb
    exact (hf a (ho.clear a ha)).clear⟩

instance {o : Option α} {p : α → Bool} [ho : Clear s n o] : Clear s n (o.filter p) :=
  ⟨fun a h => ho.clear a (Option.mem_filter_iff.mp h).1⟩

instance {o : Option α} [ho : Clear s n o] : Clear s n o.toList :=
  ⟨fun a h => ho.clear a (Option.mem_toList.mp h)⟩

instance {a : α} {b : β} [ha : Clear s n a] [hb : Clear s n b] : Clear s n (a, b) :=
  ⟨⟨ha.clear, hb.clear⟩⟩

instance {p : α × β} [hp : Clear s n p] : Clear s n p.1 := ⟨hp.clear.1⟩

instance {p : α × β} [hp : Clear s n p] : Clear s n p.2 := ⟨hp.clear.2⟩

instance {a : α} [ha : Clear s n a] : Clear s n (Except.error a : Except α β) := ⟨ha.clear⟩

instance {b : β} [hb : Clear s n b] : Clear s n (Except.ok b : Except α β) := ⟨hb.clear⟩

theorem Clear.of_error {a : α} (h : Clear s n (Except.error a : Except α β)) : Clear s n a :=
  ⟨h.clear⟩

theorem Clear.of_ok {b : β} (h : Clear s n (Except.ok b : Except α β)) : Clear s n b := ⟨h.clear⟩

instance {a : α} [ha : Clear s n a] : Clear s n (ForInStep.yield a) := ⟨ha.clear⟩

theorem Clear.lookup {entries : List (String × α)} (h : Clear s n entries) (name : String) :
    Clear s n (entries.lookup name) := by
  induction entries with
  | nil => exact inferInstanceAs (Clear s n none)
  | cons e entries ih =>
    obtain ⟨k, a⟩ := e
    rw [lookup_cons]
    split
    · exact ⟨fun b hb => by cases hb; exact (h.clear _ List.mem_cons_self).2⟩
    · exact ih (h.of_sublist fun _ => List.mem_cons_of_mem _)

instance {entries : List (String × α)} [h : Clear s n entries] (name : String) :
    Clear s n (entries.lookup name) := h.lookup name

end

instance {args : List Value} [Clear s n args] (i : Nat) : Clear s n (argAt args i) := by
  unfold argAt
  rw [List.getD_eq_getElem?_getD]
  infer_instance

/-! ### Functions -/

instance : Clear s n StreamFunction.passThrough := ⟨trivial⟩
instance : Clear s n StreamFunction.readable := ⟨trivial⟩
instance : Clear s n StreamFunction.push := ⟨trivial⟩
instance : Clear s n StreamFunction.on := ⟨trivial⟩
instance : Clear s n StreamFunction.once := ⟨trivial⟩
instance : Clear s n StreamFunction.write := ⟨trivial⟩
instance : Clear s n StreamFunction.end := ⟨trivial⟩
instance (r : Ref) [h : Visible s n r] : Clear s n (StreamFunction.acknowledge r) := ⟨h⟩

instance (f : Intrinsic) : Clear s n (Function.intrinsic f) := ⟨trivial⟩
instance (f : PathFunction) : Clear s n (Function.path f) := ⟨trivial⟩
instance (f : UtilFunction) : Clear s n (Function.util f) := ⟨trivial⟩
instance (f : FileFunction) (files : Virtual.Resolution) : Clear s n (Function.file f files) :=
  ⟨trivial⟩
instance (f : UrlFunction) : Clear s n (Function.url f) := ⟨trivial⟩
instance (f : BufferFunction) : Clear s n (Function.buffer f) := ⟨trivial⟩
instance (f : ProcessFunction) (directory : String) : Clear s n (Function.process f directory) :=
  ⟨trivial⟩
instance (f : SystemFunction) : Clear s n (Function.system f) := ⟨trivial⟩
instance (f : EmitterFunction) : Clear s n (Function.emitter f) := ⟨trivial⟩
instance (level : LogLevel) : Clear s n (Function.console level) := ⟨trivial⟩
instance : Clear s n Function.require := ⟨trivial⟩
instance : Clear s n Function.createRequire := ⟨trivial⟩
instance : Clear s n Function.idle := ⟨trivial⟩
instance (b : Bool) : Clear s n (Function.answer b) := ⟨trivial⟩
instance (label : String) (failure : Option String) : Clear s n (Function.probe label failure) :=
  ⟨trivial⟩
instance (message : String) : Clear s n (Function.unprintable message) := ⟨trivial⟩
instance (counter : Nat) (label : String) (times : Nat) (steps : List StreamStep)
    (failure : Option String) : Clear s n (Function.follower counter label times steps failure) :=
  ⟨trivial⟩
instance (stream : String) (steps : List StreamStep) : Clear s n (Function.consumer stream steps) :=
  ⟨trivial⟩
instance (f : Formatter) : Clear s n (Function.formatter f) := ⟨trivial⟩

instance (f : StreamFunction) (channel : Nat) [h : Clear s n f] :
    Clear s n (Function.stream f channel) := ⟨h.clear⟩

instance (v : Value) [h : Clear s n v] : Clear s n (Function.promisified v) := ⟨h.clear⟩

instance (promise : Ref) [h : Visible s n promise] : Clear s n (Function.promisedResult promise) :=
  ⟨h⟩

instance (promise : Ref) (round : Nat) (fulfils : Bool) [h : Visible s n promise] :
    Clear s n (Function.settle promise round fulfils) := ⟨h⟩

instance (error value : Value) (times : Nat) [he : Clear s n error] [hv : Clear s n value] :
    Clear s n (Function.callbackStyle error value times) := ⟨he.clear, hv.clear⟩

instance (bundle : Value) (promise : Ref) [hb : Clear s n bundle] [hp : Visible s n promise] :
    Clear s n (Function.formatResults bundle promise) := ⟨hb.clear, hp⟩

instance (path directory : String) (files : Value) [h : Clear s n files] :
    Clear s n (Function.sampleChecks path directory files) := ⟨h.clear⟩

/-! ### Objects -/

instance : Visible s n Place.objectParent := .first (by decide)
instance : Visible s n Place.functionParent := .first (by decide)
instance : Visible s n Place.listParent := .first (by decide)
instance : Visible s n Place.promiseParent := .first (by decide)
instance : Visible s n Place.bytesParent := .first (by decide)
instance : Visible s n Place.byteStoreParent := .first (by decide)
instance : Visible s n Place.global := .first (by decide)
instance : Visible s n Place.bufferParent := .first (by decide)
instance : Visible s n Place.urlParent := .first (by decide)
instance : Visible s n Place.moduleCache := .first (by decide)
instance : Visible s n Place.requireFunction := .first (by decide)

theorem errorConstructor_lt (name : String) : Place.errorConstructor name < firstHeap.size := by
  have hsize : Place.firstError + 2 * Place.errorNames.length ≤ firstHeap.size := by decide
  have hplace : (Place.errorNames.idxOf? name).getD 0 < Place.errorNames.length := by
    cases h : Place.errorNames.idxOf? name with
    | none => decide
    | some i => exact (List.findIdx?_eq_some_iff_getElem.mp h).1
  refine Nat.lt_of_lt_of_le ?_ hsize
  show Place.firstError + (2 * (Place.errorNames.idxOf? name).getD 0 + 1) < _
  exact Nat.add_lt_add_left (Nat.lt_of_succ_le (Nat.mul_le_mul_left 2 hplace)) _

instance (name : String) : Visible s n (Place.errorConstructor name) :=
  .first (errorConstructor_lt name)

instance (name : String) : Visible s n (Place.errorParent name) :=
  .first (Nat.lt_of_succ_lt (errorConstructor_lt name))

instance : Clear s n ObjectKind.plain := ⟨trivial⟩
instance : Clear s n ObjectKind.error := ⟨trivial⟩
instance (content : Bytes) : Clear s n (ObjectKind.byteStore content) := ⟨trivial⟩

instance {items : List Value} [h : Clear s n items] : Clear s n (ObjectKind.list items) :=
  ⟨h.clear⟩

instance {f : Function} [h : Clear s n f] : Clear s n (ObjectKind.function f) := ⟨h.clear⟩

instance {store : Ref} [h : Visible s n store] (offset length : Nat) :
    Clear s n (ObjectKind.bytes store offset length) := ⟨h⟩

instance {state : PromiseState} [h : Clear s n state] : Clear s n (ObjectKind.promise state) :=
  ⟨h.clear⟩

instance (round : Nat) : Clear s n (PromiseState.pending round []) := ⟨fun _ h => nomatch h⟩

instance {v : Value} [h : Clear s n v] (enumerable : Bool) :
    Clear s n (Property.mk v enumerable) := ⟨h.clear⟩

instance {p : Property} [h : Clear s n p] : Clear s n p.value := ⟨h.clear⟩

instance {v : Value} [h : Clear s n v] (name : String) : Clear s n (hidden name v) :=
  ⟨trivial, h.clear⟩

instance {kind : ObjectKind} {parent : Ref} {properties : List (String × Property)}
    [hk : Clear s n kind] [hp : Visible s n parent] [hs : Clear s n properties] :
    Clear s n (Object.mk kind (some parent) properties) :=
  ⟨hk.clear, fun p h => by cases h; exact hp, hs.clear⟩

instance {kind : ObjectKind} {properties : List (String × Property)} [hk : Clear s n kind]
    [hs : Clear s n properties] : Clear s n (Object.mk kind none properties) :=
  ⟨hk.clear, fun _ h => (nomatch h), hs.clear⟩

instance (parent : Option Ref) (properties : List (String × Property)) :
    Fresh ⟨.plain, parent, properties⟩ := ⟨fun _ => rfl⟩

instance (items : List Value) (parent : Option Ref) (properties : List (String × Property)) :
    Fresh ⟨.list items, parent, properties⟩ := ⟨fun _ => rfl⟩

instance (parent : Option Ref) (properties : List (String × Property)) :
    Fresh ⟨.error, parent, properties⟩ := ⟨fun _ => rfl⟩

instance (f : Function) (parent : Option Ref) (properties : List (String × Property)) :
    Fresh ⟨.function f, parent, properties⟩ := ⟨fun _ => rfl⟩

instance (content : Bytes) (parent : Option Ref) (properties : List (String × Property)) :
    Fresh ⟨.byteStore content, parent, properties⟩ := ⟨fun _ => rfl⟩

instance (store offset length : Nat) (parent : Option Ref)
    (properties : List (String × Property)) :
    Fresh ⟨.bytes store offset length, parent, properties⟩ := ⟨fun _ => rfl⟩

instance (round : Nat) (parent : Option Ref) (properties : List (String × Property)) :
    Fresh ⟨.promise (.pending round []), parent, properties⟩ := ⟨fun _ => rfl⟩

/-! ### The first heap -/

instance (r : Ref) : Clear s n (methodsOf r) := by
  refine ⟨fun entry hentry => ?_⟩
  obtain ⟨⟨method, i⟩, hmem, hsome⟩ := List.mem_filterMap.mp hentry
  have hsize : Place.firstMethod + Place.methods.length ≤ firstHeap.size := by decide
  have hi := List.snd_lt_of_mem_zipIdx hmem
  dsimp only at hsome
  split at hsome
  · cases hsome
    exact ⟨trivial, Visible.first (Nat.lt_of_lt_of_le (Nat.add_lt_add_left hi _) hsize)⟩
  · cases hsome

instance (name : String) {f : Function} {properties : List (String × Property)} [Clear s n f]
    [Clear s n properties] : Clear s n (functionObject name f properties) := by
  unfold functionObject
  infer_instance

instance (name : String) : Clear s n (errorObjects name) := by
  unfold errorObjects
  split <;> infer_instance

instance : Clear s n firstHeap := by
  refine ⟨fun r _ => ?_⟩
  have herrors : Clear s n (Place.errorNames.flatMap errorObjects) := by
    refine ⟨fun o ho => ?_⟩
    obtain ⟨name, -, ho⟩ := List.mem_flatMap.mp ho
    exact (inferInstance : Clear s n (errorObjects name)).clear o ho
  rw [Heap.at_, firstHeap, List.getElem?_toArray]
  unfold firstObject
  have hnone : Clear s n ({} : Object) := inferInstance
  exact Clear.clear

/-! ### Heaps and worlds -/

section
variable {h : Heap} {r : Ref} [hh : Clear s n h] [hr : Visible s n r]

instance : Clear s n (h.at_ r) := ⟨hh.clear r hr.shown⟩

instance : Clear s n (h.at_ r).kind := ⟨(hh.clear r hr.shown).kind⟩

instance : Clear s n (h.at_ r).properties := ⟨(hh.clear r hr.shown).properties⟩

instance (name : String) : Clear s n (h.own? r name) := by
  have hkind : Clear s n (h.at_ r).kind := inferInstance
  have hproperty : Clear s n (((h.at_ r).properties.lookup name).map Property.value) :=
    inferInstance
  have hother : ∀ (computed : Option Value), Clear s n computed → Clear s n (match computed with
      | some v => some v
      | none => ((h.at_ r).properties.lookup name).map Property.value) := fun computed hc => by
    cases computed with
    | some v => exact hc
    | none => exact hproperty
  refine hother _ ?_
  revert hkind
  cases (h.at_ r).kind with
  | list items =>
    intro hkind
    have hitems : Clear s n items := ⟨hkind.clear⟩
    refine ⟨fun v hv => ?_⟩
    dsimp only at hv
    split at hv
    · cases hv
      exact trivial
    · obtain ⟨i, -, hi⟩ := Option.bind_eq_some_iff.mp hv
      exact hitems.clear v (List.mem_of_getElem? hi)
  | bytes store offset length =>
    intro hkind
    have hstore : Visible s n store := hkind.clear
    refine ⟨fun v hv => ?_⟩
    dsimp only at hv
    split at hv
    · cases hv
      exact trivial
    · split at hv
      · cases hv
        exact trivial
      · split at hv
        · cases hv
          exact hstore
        · split at hv
          · obtain ⟨b, -, rfl⟩ := Option.map_eq_some_iff.mp hv
            exact trivial
          · cases hv
  | byteStore content =>
    intro _
    refine ⟨fun v hv => ?_⟩
    dsimp only at hv
    split at hv
    · cases hv
      exact trivial
    · cases hv
  | _ => exact fun _ => inferInstanceAs (Clear s n (none : Option Value))

instance (name : String) (fuel : Nat) : Clear s n (h.findFrom name fuel r) := by
  induction fuel generalizing r with
  | zero => exact inferInstanceAs (Clear s n (none : Option Value))
  | succ fuel ih =>
    have hown : Clear s n (h.own? r name) := inferInstance
    have hparent : ∀ p, (h.at_ r).parent = some p → Visible s n p :=
      fun p hp => (hh.clear r hr.shown).parent p hp
    unfold Heap.findFrom
    split
    · rename_i v hv
      rwa [hv] at hown
    · split
      · rename_i p hp
        exact @ih p (hparent p hp)
      · exact inferInstanceAs (Clear s n (none : Option Value))

instance (name : String) : Clear s n (h.find r name) := by
  unfold Heap.find
  infer_instance

end

instance {h : Heap} {v : Value} [Clear s n h] [Clear s n v] : Clear s n (h.function? v) := by
  cases v with
  | object r =>
    have hkind : Clear s n (h.at_ r).kind := inferInstance
    revert hkind
    dsimp only [Heap.function?]
    cases (h.at_ r).kind with
    | function f =>
      intro hkind
      have : Clear s n f := ⟨hkind.clear⟩
      exact inferInstanceAs (Clear s n (some f))
    | _ => exact fun _ => inferInstanceAs (Clear s n (none : Option Function))
  | _ => exact inferInstanceAs (Clear s n (none : Option Function))

instance {h : Heap} {v : Value} [Clear s n h] [Clear s n v] : Clear s n (h.list? v) := by
  cases v with
  | object r =>
    have hkind : Clear s n (h.at_ r).kind := inferInstance
    revert hkind
    dsimp only [Heap.list?]
    cases (h.at_ r).kind with
    | list items =>
      intro hkind
      have : Clear s n items := ⟨hkind.clear⟩
      exact inferInstanceAs (Clear s n (some items))
    | _ => exact fun _ => inferInstanceAs (Clear s n (none : Option (List Value)))
  | _ => exact inferInstanceAs (Clear s n (none : Option (List Value)))

section
variable {w : World} [h : Clear s n w]

instance : Clear s n w.heap := ⟨h.clear.heap⟩
instance : Clear s n w.jobs := ⟨h.clear.jobs⟩
instance : Clear s n w.stored := ⟨h.clear.stored⟩
instance : Clear s n w.kept := ⟨h.clear.kept⟩
instance (channel : Nat) : Clear s n (w.channels[channel]?.getD {}) := ⟨h.clear.channels channel⟩

end

end GuestLint.Guest
