import GuestLint.Proofs.Guest.Machine

/-!
# Objects and their properties

What the heap operations do to the objects of a heap and to the fields of one object. The fields
of a plain object are its properties; lists and bytes have computed ones besides.

* `at_modify`, `at_push`: an operation changes one object and no other.
* `field_put`, `field_drop`: a property changes and no other.
* `run_assign`, `run_makeRecord`: the guest operations on objects.
-/
namespace GuestLint.Guest

/-! ## Properties -/

theorem lookup_cons {β : Type} (n m : String) (q : β) (ps : List (String × β)) :
    ((m, q) :: ps).lookup n = if n = m then some q else ps.lookup n := by
  rw [List.lookup_cons]
  by_cases h : n = m
  · simp [h]
  · simp [beq_eq_false_iff_ne.mpr h, h]

theorem lookup_putProperty (name n : String) (p : Property) (ps : List (String × Property)) :
    (putProperty name p ps).lookup n = if n = name then some p else ps.lookup n := by
  induction ps with
  | nil => exact lookup_cons n name p []
  | cons q ps ih =>
    obtain ⟨m, q⟩ := q
    unfold putProperty
    by_cases hm : m = name
    · rw [if_pos hm, lookup_cons, lookup_cons, hm]
      split <;> rfl
    · rw [if_neg hm, lookup_cons, lookup_cons, ih]
      grind

theorem lookup_filter_ne {β : Type} (name n : String) (ps : List (String × β)) :
    (ps.filter (·.1 ≠ name)).lookup n = if n = name then none else ps.lookup n := by
  induction ps with
  | nil => simp
  | cons q ps ih =>
    obtain ⟨m, q⟩ := q
    by_cases hm : m = name
    · rw [List.filter_cons_of_neg (by simp [hm]), ih, lookup_cons]
      grind
    · rw [List.filter_cons_of_pos (by simp [hm]), lookup_cons, ih, lookup_cons]
      grind

/-! ## Objects -/

namespace Object

/-- A field of a plain object. -/
def field (o : Object) (name : String) : Option Value := (o.properties.lookup name).map (·.value)

/-- Sets a property. One that the object has stays hidden when it was. -/
def put (o : Object) (name : String) (value : Value) : Object :=
  let enumerable := ((o.properties.lookup name).map (·.enumerable)).getD true
  { o with properties := putProperty name ⟨value, enumerable⟩ o.properties }

def drop (o : Object) (name : String) : Object :=
  { o with properties := o.properties.filter (·.1 ≠ name) }

@[simp] theorem put_kind (o : Object) (name : String) (v : Value) : (o.put name v).kind = o.kind :=
  rfl

theorem field_put (o : Object) (name n : String) (v : Value) :
    (o.put name v).field n = if n = name then some v else o.field n := by
  unfold field put
  rw [lookup_putProperty]
  split <;> rfl

theorem field_drop (o : Object) (name n : String) :
    (o.drop name).field n = if n = name then none else o.field n := by
  unfold field drop
  rw [lookup_filter_ne]
  split <;> rfl

end Object

/-! ## The heap -/

namespace Heap

variable (h : Heap)

@[simp] theorem size_modify (r : Ref) (f : Object → Object) : (h.modify r f).size = h.size := by
  unfold modify
  split <;> simp

theorem at_modify (r r' : Ref) (f : Object → Object) :
    (h.modify r f).at_ r' = if r' = r ∧ r < h.size then f (h.at_ r) else h.at_ r' := by
  unfold modify
  by_cases hr : r < h.size
  · by_cases heq : r' = r
    · subst heq
      simp [at_, hr]
    · simp [at_, hr, heq, Ne.symm heq]
  · simp [hr]

theorem at_modify_self {r : Ref} (hr : r < h.size) (f : Object → Object) :
    (h.modify r f).at_ r = f (h.at_ r) := by
  rw [at_modify, if_pos ⟨rfl, hr⟩]

theorem at_modify_ne {r r' : Ref} (hne : r' ≠ r) (f : Object → Object) :
    (h.modify r f).at_ r' = h.at_ r' := by
  rw [at_modify, if_neg fun hc => hne hc.1]

theorem at_push (o : Object) (r : Ref) :
    at_ (h.push o) r = if r = h.size then o else h.at_ r := by
  unfold at_
  rw [Array.getElem?_push]
  split <;> rfl

theorem at_push_self (o : Object) : at_ (h.push o) h.size = o := by
  rw [at_push, if_pos rfl]

theorem at_push_lt {r : Ref} (hr : r < h.size) (o : Object) : at_ (h.push o) r = h.at_ r := by
  rw [at_push, if_neg (Nat.ne_of_lt hr)]

theorem modify_push (o : Object) (f : Object → Object) :
    modify (h.push o) h.size f = h.push (f o) := by
  unfold modify
  rw [if_pos (by simp), at_push_self]
  apply Array.ext
  · simp
  · intro i hi hi'
    simp only [Array.getElem_push, Array.set!_eq_setIfInBounds]
    grind

/-- Only the objects of a heap are more than plain ones. -/
theorem lt_of_kind {r : Ref} (hk : (h.at_ r).kind ≠ .plain) : r < h.size := by
  refine Nat.lt_of_not_le fun hle => hk ?_
  rw [at_, Array.getElem?_eq_none hle]
  rfl

/-- The own properties of a plain object are its fields. -/
theorem own?_plain {r : Ref} (hk : (h.at_ r).kind = .plain) (name : String) :
    h.own? r name = (h.at_ r).field name := by
  simp [own?, hk, Object.field]

theorem find_of_own {r : Ref} {name : String} {v : Value} (hv : h.own? r name = some v) :
    h.find r name = some v := by
  simp [find, findFrom, hv]

/-- An object has the properties of its parent that it has not itself. -/
theorem find_of_parent {r p : Ref} {name : String} {v : Value} (hnone : h.own? r name = none)
    (hparent : (h.at_ r).parent = some p) (hv : h.own? p name = some v) :
    h.find r name = some v := by
  have hsize : h.size ≠ 0 := by
    intro hzero
    simp [at_, Array.getElem?_eq_none (hzero ▸ Nat.zero_le r)] at hparent
  obtain ⟨n, hn⟩ := Nat.exists_eq_succ_of_ne_zero hsize
  simp only [find, hn, findFrom, hnone, hparent, hv]

end Heap

/-! ## Guest operations on objects -/

theorem run_assign (w : World) (r : Ref) (name : String) (v : Value) :
    run w (assign r name v) = (.ok (), { w with heap := w.heap.modify r (·.put name v) }) := rfl

/-- A plain object with fields. -/
def record (fields : List (String × Value)) : Object :=
  fields.foldl (fun o f => o.put f.1 f.2) ⟨.plain, some Place.objectParent, []⟩

theorem run_assignAll (w : World) (h : Heap) (o : Object) (fields : List (String × Value)) :
    run { w with heap := h.push o } (forIn fields PUnit.unit fun f _ => do
        assign h.size f.1 f.2
        pure (ForInStep.yield PUnit.unit)) =
      (.ok (), { w with heap := h.push (fields.foldl (fun o f => o.put f.1 f.2) o) }) := by
  induction fields generalizing o with
  | nil => rfl
  | cons f fields ih =>
    rw [List.forIn_cons, bind_assoc, run_bind_ok (run_assign _ _ _ _)]
    simp only [pure_bind, Heap.modify_push]
    exact ih (o.put f.1 f.2)

theorem run_makeRecord (w : World) (fields : List (String × Value)) :
    run w (makeRecord fields) =
      (.ok w.heap.size, { w with heap := w.heap.push (record fields) }) := by
  unfold makeRecord
  rw [run_bind_ok (run_allocate w _), run_bind_ok (run_assignAll w w.heap _ fields)]
  rfl

/-- An error that is made by code which runs at some places. -/
def errorAt (frames : List Frame) (name message : String) : Object :=
  ⟨.error, some (Place.errorParent name),
    [hidden "message" (.text message), hidden "stack" (.text (stackText frames))]⟩

theorem run_makeError (w : World) (name message : String) :
    run w (makeError name message) =
      (.ok w.heap.size, { w with heap := w.heap.push (errorAt w.frames name message) }) := rfl

theorem run_raise {α : Type} (w : World) (name message : String) :
    run w (raise name message : Machine α) = (.error (.thrown (.object w.heap.size)),
      { w with heap := w.heap.push (errorAt w.frames name message) }) := rfl

end GuestLint.Guest
