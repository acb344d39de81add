import GuestLint.Guest.Modules
import GuestLint.Proofs.Guest.Heap

/-!
# The module cache of a world

The module cache is an object whose fields are the entries of modules; an entry is an object with
the exports of its module and a mark that tells whether it is loaded. Requiring a module changes
the cache in three ways only.

* `begun`: a load begins; there is a new entry, which is not loaded.
* `completed`: the body has returned; the entry is marked as loaded.
* `evicted`: the body has thrown; the entry is gone.
-/
namespace GuestLint.Guest

/-- The entry of a module. -/
def cached (w : World) (id : String) : Option Ref :=
  match w.heap.own? Place.moduleCache id with
  | some (.object entry) => some entry
  | _ => none

def exportsOf (w : World) (entry : Ref) : Value :=
  (w.heap.find entry "exports").getD .undefined

/-- The object that a load makes for a module. -/
def newEntry (id : String) (exports : Ref) : Object :=
  record [("id", .text id), ("exports", .object exports), ("loaded", .boolean false)]

/-- A load has begun. Its entry is the second of two new objects, behind its exports. -/
def begun (w : World) (id : String) : World :=
  let heap : Heap := (w.heap.push (record [])).push (newEntry id w.heap.size)
  { w with heap := heap.modify Place.moduleCache (·.put id (.object (w.heap.size + 1))) }

def completed (w : World) (entry : Ref) : World :=
  { w with heap := w.heap.modify entry (·.put "loaded" (.boolean true)) }

def evicted (w : World) (id : String) : World :=
  { w with heap := w.heap.modify Place.moduleCache (·.drop id) }

/-! ## The operations of the cache -/

section
variable (call : Call) (w : World)

theorem run_resolve (name : String) :
    run w ((moduleCache call).resolve name) = (.ok (w.registry.resolve name), w) := rfl

theorem run_lookup (id : String) :
    run w ((moduleCache call).lookup id) = (.ok (cached w id), w) := by
  show run w (heap >>= _) = _
  rw [run_bind_ok (run_heap w)]
  unfold cached
  split <;> simp_all

theorem run_fresh (id : String) :
    run w ((moduleCache call).fresh id) =
      (.ok (w.heap.size + 1),
        { w with heap := (w.heap.push (record [])).push (newEntry id w.heap.size) }) := by
  show run w (makeRecord [] >>= _) = _
  rw [run_bind_ok (run_makeRecord w [])]
  refine (run_makeRecord _ _).trans ?_
  simp [newEntry]

/-- With its entry in the cache, a load has begun. -/
theorem run_store (id : String) :
    run { w with heap := (w.heap.push (record [])).push (newEntry id w.heap.size) }
        ((moduleCache call).store id (w.heap.size + 1)) = (.ok (), begun w id) := rfl

theorem run_markLoaded (entry : Ref) :
    run w ((moduleCache call).markLoaded entry) = (.ok (), completed w entry) := rfl

theorem run_evict (id : String) :
    run w ((moduleCache call).evict id) = (.ok (), evicted w id) := rfl

theorem run_exports (entry : Ref) :
    run w ((moduleCache call).exports entry) = (.ok (exportsOf w entry), w) := rfl

end

/-! ## What they change -/

/-- The cache is a plain object. -/
structure CacheReady (w : World) : Prop where
  lt_size : Place.moduleCache < w.heap.size
  plain : (w.heap.at_ Place.moduleCache).kind = .plain

/-- An entry is a plain object with exports, and marked as loaded or not. -/
structure IsEntry (w : World) (entry : Ref) (loaded : Bool) : Prop where
  lt_size : entry < w.heap.size
  ne_cache : entry ≠ Place.moduleCache
  plain : (w.heap.at_ entry).kind = .plain
  exports : ∃ v, (w.heap.at_ entry).field "exports" = some v
  loaded : (w.heap.at_ entry).field "loaded" = some (.boolean loaded)

variable {w : World}

theorem cached_eq (hw : (w.heap.at_ Place.moduleCache).kind = .plain) (id : String) :
    cached w id =
      match (w.heap.at_ Place.moduleCache).field id with
      | some (.object entry) => some entry
      | _ => none := by
  unfold cached
  rw [Heap.own?_plain _ hw]

theorem cached_congr {w' : World}
    (h : w'.heap.at_ Place.moduleCache = w.heap.at_ Place.moduleCache) (hw : CacheReady w)
    (id : String) : cached w' id = cached w id := by
  rw [cached_eq hw.plain, cached_eq (h ▸ hw.plain), h]

theorem IsEntry.exportsOf_eq {entry : Ref} {loaded : Bool} (h : IsEntry w entry loaded) :
    (w.heap.at_ entry).field "exports" = some (exportsOf w entry) := by
  obtain ⟨v, hv⟩ := h.exports
  have hfind := Heap.find_of_own w.heap ((Heap.own?_plain _ h.plain "exports").trans hv)
  rw [exportsOf, hfind, hv]
  rfl

/-- The exports of an entry depend on its fields only. -/
theorem IsEntry.exportsOf_congr {w' : World} {entry : Ref} {loaded loaded' : Bool}
    (h : IsEntry w entry loaded) (h' : IsEntry w' entry loaded')
    (heq : (w'.heap.at_ entry).field "exports" = (w.heap.at_ entry).field "exports") :
    exportsOf w' entry = exportsOf w entry := by
  rw [h.exportsOf_eq, h'.exportsOf_eq] at heq
  exact Option.some.inj heq

theorem IsEntry.congr {w' : World} {entry : Ref} {loaded : Bool} (h : IsEntry w entry loaded)
    (hsize : w.heap.size ≤ w'.heap.size) (hat : w'.heap.at_ entry = w.heap.at_ entry) :
    IsEntry w' entry loaded :=
  ⟨Nat.lt_of_lt_of_le h.lt_size hsize, h.ne_cache, hat ▸ h.plain, hat ▸ h.exports, hat ▸ h.loaded⟩

/-! ### A load begins -/

theorem begun_at {id : String} {r : Ref} (hr : r < w.heap.size) (hne : r ≠ Place.moduleCache) :
    (begun w id).heap.at_ r = w.heap.at_ r := by
  have h1 : r ≠ w.heap.size := Nat.ne_of_lt hr
  have h2 : r ≠ w.heap.size + 1 := Nat.ne_of_lt (Nat.lt_succ_of_lt hr)
  simp [begun, Heap.at_modify, Heap.at_push, hne, h1, h2]

theorem begun_cache_at (hw : CacheReady w) (id : String) :
    (begun w id).heap.at_ Place.moduleCache =
      (w.heap.at_ Place.moduleCache).put id (.object (w.heap.size + 1)) := by
  have h1 : Place.moduleCache ≠ w.heap.size := Nat.ne_of_lt hw.lt_size
  have h2 : Place.moduleCache ≠ w.heap.size + 1 := Nat.ne_of_lt (Nat.lt_succ_of_lt hw.lt_size)
  have hlt : Place.moduleCache < w.heap.size + 1 + 1 := Nat.lt_add_right 2 hw.lt_size
  unfold begun
  rw [Heap.at_modify_self _ (by simpa using hlt)]
  simp [Heap.at_push, h1, h2]

theorem begun_ready (hw : CacheReady w) (id : String) : CacheReady (begun w id) := by
  refine ⟨?_, ?_⟩
  · have hlt : Place.moduleCache < w.heap.size + 1 + 1 := Nat.lt_add_right 2 hw.lt_size
    simp only [begun, Heap.size_modify, Array.size_push]
    exact hlt
  · rw [begun_cache_at hw]
    exact hw.plain

theorem begun_cached (hw : CacheReady w) (id n : String) :
    cached (begun w id) n = if n = id then some (w.heap.size + 1) else cached w n := by
  rw [cached_eq (begun_ready hw id).plain, cached_eq hw.plain, begun_cache_at hw, Object.field_put]
  by_cases h : n = id <;> simp [h]

/-- When a load has begun, an entry is the new one or one that there was. -/
theorem begun_cached_cases (hw : CacheReady w) {id n : String} {r : Ref}
    (h : cached (begun w id) n = some r) :
    n = id ∧ r = w.heap.size + 1 ∨ n ≠ id ∧ cached w n = some r := by
  rw [begun_cached hw] at h
  by_cases hn : n = id
  · rw [if_pos hn] at h
    exact .inl ⟨hn, (Option.some.inj h).symm⟩
  · rw [if_neg hn] at h
    exact .inr ⟨hn, h⟩

theorem begun_entry (hw : CacheReady w) (id : String) :
    IsEntry (begun w id) (w.heap.size + 1) false := by
  have hne : w.heap.size + 1 ≠ Place.moduleCache := Nat.ne_of_gt (Nat.lt_succ_of_lt hw.lt_size)
  have hat : (begun w id).heap.at_ (w.heap.size + 1) = newEntry id w.heap.size := by
    unfold begun
    rw [Heap.at_modify_ne _ hne, Heap.at_push, if_pos (by simp)]
  refine ⟨by simp [begun], hne, ?_, ?_, ?_⟩
  · rw [hat]; rfl
  · rw [hat]
    exact ⟨.object w.heap.size, by simp [newEntry, record, Object.field_put]⟩
  · rw [hat]
    simp [newEntry, record, Object.field_put]

/-! ### A load ends -/

theorem completed_cached {entry : Ref} {loaded : Bool} (hw : CacheReady w)
    (he : IsEntry w entry loaded) (n : String) : cached (completed w entry) n = cached w n :=
  cached_congr (Heap.at_modify_ne _ he.ne_cache.symm _) hw n

theorem completed_ready {entry : Ref} {loaded : Bool} (hw : CacheReady w)
    (he : IsEntry w entry loaded) : CacheReady (completed w entry) := by
  refine ⟨by simpa [completed] using hw.lt_size, ?_⟩
  rw [completed, Heap.at_modify_ne _ he.ne_cache.symm]
  exact hw.plain

theorem completed_at {entry r : Ref} (hne : r ≠ entry) :
    (completed w entry).heap.at_ r = w.heap.at_ r := Heap.at_modify_ne _ hne _

theorem completed_entry {entry : Ref} {loaded : Bool} (he : IsEntry w entry loaded) :
    IsEntry (completed w entry) entry true := by
  have hat : (completed w entry).heap.at_ entry =
      (w.heap.at_ entry).put "loaded" (.boolean true) := Heap.at_modify_self _ he.lt_size _
  obtain ⟨v, hv⟩ := he.exports
  refine ⟨by simpa [completed] using he.lt_size, he.ne_cache, ?_, ⟨v, ?_⟩, ?_⟩
  · rw [hat]
    exact he.plain
  · rw [hat, Object.field_put, if_neg (by decide), hv]
  · rw [hat, Object.field_put, if_pos rfl]

theorem evicted_cache_at (hw : CacheReady w) (id : String) :
    (evicted w id).heap.at_ Place.moduleCache = (w.heap.at_ Place.moduleCache).drop id :=
  Heap.at_modify_self _ hw.lt_size _

theorem evicted_ready (hw : CacheReady w) (id : String) : CacheReady (evicted w id) := by
  refine ⟨by simpa [evicted] using hw.lt_size, ?_⟩
  rw [evicted_cache_at hw]
  exact hw.plain

theorem evicted_cached (hw : CacheReady w) (id n : String) :
    cached (evicted w id) n = if n = id then none else cached w n := by
  rw [cached_eq (evicted_ready hw id).plain, cached_eq hw.plain, evicted_cache_at hw,
    Object.field_drop]
  by_cases h : n = id <;> simp [h]

theorem evicted_cached_cases (hw : CacheReady w) {id n : String} {r : Ref}
    (h : cached (evicted w id) n = some r) : n ≠ id ∧ cached w n = some r := by
  rw [evicted_cached hw] at h
  by_cases hn : n = id
  · rw [if_pos hn] at h
    cases h
  · rw [if_neg hn] at h
    exact ⟨hn, h⟩

theorem evicted_at {id : String} {r : Ref} (hne : r ≠ Place.moduleCache) :
    (evicted w id).heap.at_ r = w.heap.at_ r := Heap.at_modify_ne _ hne _

end GuestLint.Guest
