import Mathlib.Data.List.Count
import GuestLint.Stream.Ledger

/-!
# What the deliveries of a ledger add up to

`run` applies any list of operations to a new ledger and keeps every plan that a `deliver` among
them computes. The account of such a history is `Kept`: a data listener has been given exactly the
chunks below its cursor, in order, and an error or end listener has been called as often as its
flag says.

* `Kept.step`: each operation keeps the account.
* `Kept.caught_up`: right after a delivery nobody is owed anything.
* `deliver_before`: the order of the calls within one plan.
* `run_account`: all of this for every history, with no data and no end call after a failure.
-/
namespace GuestLint.Stream

/-! ## Views of a plan -/

/-- The chunks that data listener `l` gets from a plan, in order. -/
def chunksFor (l : Nat) : List Delivery → List Nat
  | [] => []
  | .data l' chunk :: rest => if l' = l then chunk :: chunksFor l rest else chunksFor l rest
  | .error _ :: rest => chunksFor l rest
  | .end _ :: rest => chunksFor l rest

/-- `d` may stand before `e` in one plan: data listeners take their turns, each with ascending
chunks, and end listeners come after all of them. -/
def Delivery.Before : Delivery → Delivery → Prop
  | .data l c, .data l' c' => l < l' ∨ l = l' ∧ c < c'
  | .data _ _, .end _ => True
  | .error l, .error l' => l < l'
  | .end l, .end l' => l < l'
  | _, _ => False

/-- The listener and the chunk of a call are there. -/
def Ledger.Has (s : Ledger) : Delivery → Prop
  | .data l k => l < s.cursors.length ∧ k < s.chunks
  | .error l => l < s.errorFired.length
  | .end l => l < s.endFired.length

theorem chunksFor_append (l : Nat) (p q : List Delivery) :
    chunksFor l (p ++ q) = chunksFor l p ++ chunksFor l q := by
  induction p with
  | nil => rfl
  | cons d p ih =>
    cases d with
    | data l' c => by_cases h : l' = l <;> simp [chunksFor, h, ih]
    | error e => simpa [chunksFor] using ih
    | «end» e => simpa [chunksFor] using ih

theorem chunksFor_data (l l' : Nat) (cs : List Nat) :
    chunksFor l (cs.map (.data l')) = if l' = l then cs else [] := by
  induction cs with
  | nil => simp [chunksFor]
  | cons c cs ih => by_cases h : l' = l <;> simp_all [chunksFor]

theorem chunksFor_error (l : Nat) (es : List Nat) : chunksFor l (es.map .error) = [] := by
  induction es with
  | nil => rfl
  | cons e es ih => simpa [chunksFor] using ih

theorem chunksFor_end (l : Nat) (es : List Nat) : chunksFor l (es.map .end) = [] := by
  induction es with
  | nil => rfl
  | cons e es ih => simpa [chunksFor] using ih

namespace Ledger

/-! ## The pieces of a plan -/

theorem mem_pendingData {n start : Nat} {cs : List Nat} {d : Delivery}
    (h : d ∈ pendingData n start cs) : ∃ l c, d = .data l c ∧ start ≤ l := by
  induction cs generalizing start with
  | nil => simp [pendingData] at h
  | cons cursor rest ih =>
    simp only [pendingData, List.mem_append, List.mem_map] at h
    rcases h with ⟨c, -, rfl⟩ | h
    · exact ⟨start, c, rfl, Nat.le_refl _⟩
    · obtain ⟨l, c, rfl, hl⟩ := ih h
      exact ⟨l, c, rfl, by omega⟩

theorem lt_of_mem_pendingData {n start l k : Nat} {cs : List Nat}
    (h : .data l k ∈ pendingData n start cs) : l < start + cs.length ∧ k < n := by
  induction cs generalizing start with
  | nil => simp [pendingData] at h
  | cons cursor rest ih =>
    simp only [pendingData, List.mem_append, List.mem_map, List.mem_range'_1] at h
    rw [List.length_cons]
    rcases h with ⟨c, hc, heq⟩ | h
    · cases heq
      omega
    · have := ih h
      omega

theorem chunksFor_pendingData_lt {n start l : Nat} (cs : List Nat) (h : l < start) :
    chunksFor l (pendingData n start cs) = [] := by
  induction cs generalizing start with
  | nil => rfl
  | cons cursor rest ih =>
    simp only [pendingData, chunksFor_append, chunksFor_data]
    rw [if_neg (by omega), ih (by omega)]
    rfl

/-- Beyond the last listener the cursor reads as `n`, which leaves nothing to give. -/
theorem chunksFor_pendingData (n start i : Nat) (cs : List Nat) :
    chunksFor (start + i) (pendingData n start cs) =
      List.range' (cs.getD i n) (n - cs.getD i n) := by
  induction cs generalizing start i with
  | nil => simp [pendingData, chunksFor]
  | cons cursor rest ih =>
    simp only [pendingData, chunksFor_append, chunksFor_data]
    cases i with
    | zero => simp [chunksFor_pendingData_lt]
    | succ i =>
      rw [if_neg (by omega), show start + (i + 1) = start + 1 + i by omega, ih]
      simp

theorem pendingData_before (n start : Nat) (cs : List Nat) :
    (pendingData n start cs).Pairwise Delivery.Before := by
  induction cs generalizing start with
  | nil => exact .nil
  | cons cursor rest ih =>
    simp only [pendingData, List.pairwise_append]
    refine ⟨?_, ih _, ?_⟩
    · rw [List.pairwise_map]
      exact (List.pairwise_lt_range' 1).imp fun h => Or.inr ⟨rfl, h⟩
    · intro d hd e he
      obtain ⟨c, -, rfl⟩ := List.mem_map.mp hd
      obtain ⟨l, c', rfl, hl⟩ := mem_pendingData he
      exact Or.inl (by omega)

theorem le_of_mem_unfired {start l : Nat} {fs : List Bool} (h : l ∈ unfired start fs) :
    start ≤ l := by
  induction fs generalizing start with
  | nil => simp [unfired] at h
  | cons f fs ih =>
    cases f with
    | true => have := ih h; omega
    | false =>
      rcases List.mem_cons.mp h with rfl | h
      · exact Nat.le_refl _
      · have := ih h; omega

/-- Beyond the last listener the flag reads as set: there is nobody to call. -/
theorem lt_of_mem_unfired {start l : Nat} {fs : List Bool} (h : l ∈ unfired start fs) :
    l < start + fs.length := by
  induction fs generalizing start with
  | nil => simp [unfired] at h
  | cons f fs ih =>
    simp only [unfired, List.length_cons] at h ⊢
    have hrest : l ∈ unfired (start + 1) fs → l < start + (fs.length + 1) := fun h => by
      have := ih h
      omega
    cases f with
    | true => exact hrest (by simpa using h)
    | false =>
      rcases List.mem_cons.mp (by simpa using h) with rfl | h
      · omega
      · exact hrest h

theorem count_unfired (start i : Nat) (fs : List Bool) :
    (unfired start fs).count (start + i) = if fs.getD i true then 0 else 1 := by
  induction fs generalizing start i with
  | nil => simp [unfired]
  | cons f fs ih =>
    have h0 : (unfired (start + 1) fs).count start = 0 :=
      List.count_eq_zero.mpr fun h => by have := le_of_mem_unfired h; omega
    cases i with
    | zero => cases f <;> simp [unfired, h0]
    | succ i =>
      have hi := ih (start + 1) i
      rw [show start + 1 + i = start + (i + 1) by omega] at hi
      cases f with
      | true => simpa [unfired] using hi
      | false => simpa [unfired, List.count_cons] using hi

theorem unfired_lt (start : Nat) (fs : List Bool) : (unfired start fs).Pairwise (· < ·) := by
  induction fs generalizing start with
  | nil => exact .nil
  | cons f fs ih =>
    cases f with
    | true => exact ih _
    | false => exact .cons (fun l hl => le_of_mem_unfired hl) (ih _)

/-! ## One delivery -/

/-- **Order.** A plan goes through the data listeners in the order of their registration, and
calls end listeners last. -/
theorem deliver_before (s : Ledger) : s.deliver.1.Pairwise Delivery.Before := by
  unfold deliver
  split
  · rw [List.pairwise_map]
    exact (unfired_lt 0 _).imp fun h => h
  · dsimp only
    split
    · refine List.pairwise_append.mpr ⟨pendingData_before _ _ _, ?_, ?_⟩
      · rw [List.pairwise_map]
        exact (unfired_lt 0 _).imp fun h => h
      · intro d hd e he
        obtain ⟨l, c, rfl, -⟩ := mem_pendingData hd
        obtain ⟨l', -, rfl⟩ := List.mem_map.mp he
        trivial
    · exact pendingData_before _ _ _

/-- Nothing but the marks of what has been delivered changes. -/
theorem deliver_frame (s : Ledger) :
    s.deliver.2.chunks = s.chunks ∧ s.deliver.2.ended = s.ended ∧
      s.deliver.2.errored = s.errored := by
  unfold deliver
  split
  · exact ⟨rfl, rfl, rfl⟩
  · dsimp only
    split <;> exact ⟨rfl, rfl, rfl⟩

theorem deliver_cursors (s : Ledger) :
    s.deliver.2.cursors = if s.errored then s.cursors else s.cursors.map fun _ => s.chunks := by
  cases herr : s.errored <;> cases hend : s.ended <;> simp [deliver, herr, hend]

theorem deliver_errorFired (s : Ledger) :
    s.deliver.2.errorFired =
      if s.errored then s.errorFired.map fun _ => true else s.errorFired := by
  cases herr : s.errored <;> cases hend : s.ended <;> simp [deliver, herr, hend]

theorem deliver_endFired (s : Ledger) :
    s.deliver.2.endFired =
      if s.errored = false ∧ s.ended = true then s.endFired.map fun _ => true
      else s.endFired := by
  cases herr : s.errored <;> cases hend : s.ended <;> simp [deliver, herr, hend]

theorem mem_deliver_error {s : Ledger} {l : Nat} (h : .error l ∈ s.deliver.1) :
    s.errored = true := by
  cases herr : s.errored with
  | true => rfl
  | false =>
    cases hend : s.ended <;> simp [deliver, herr, hend] at h <;>
      obtain ⟨l', c, hd, -⟩ := mem_pendingData h <;> cases hd

theorem mem_deliver_end {s : Ledger} {l : Nat} (h : .end l ∈ s.deliver.1) :
    s.ended = true ∧ s.errored = false := by
  cases herr : s.errored with
  | true => simp [deliver, herr] at h
  | false =>
    cases hend : s.ended with
    | true => exact ⟨rfl, rfl⟩
    | false =>
      simp only [deliver, herr, hend, Bool.false_eq_true, if_false] at h
      obtain ⟨l', c, hd, -⟩ := mem_pendingData h
      cases hd

/-- A plan makes calls of listeners that are there, with chunks that are there. -/
theorem deliver_has {s : Ledger} {d : Delivery} (h : d ∈ s.deliver.1) : s.Has d := by
  have hdata : d ∈ pendingData s.chunks 0 s.cursors → s.Has d := fun h => by
    obtain ⟨l, k, rfl, -⟩ := mem_pendingData h
    simpa [Has] using lt_of_mem_pendingData h
  unfold deliver at h
  split at h
  · obtain ⟨l, hl, rfl⟩ := List.mem_map.mp h
    simpa [Has] using lt_of_mem_unfired hl
  · dsimp only at h
    split at h
    · rcases List.mem_append.mp h with h | h
      · exact hdata h
      · obtain ⟨l, hl, rfl⟩ := List.mem_map.mp h
        simpa [Has] using lt_of_mem_unfired hl
    · exact hdata h

/-- An errored stream calls error listeners only. -/
theorem mem_deliver_errored {s : Ledger} (h : s.errored = true) {d : Delivery}
    (hd : d ∈ s.deliver.1) : ∃ l, d = .error l := by
  simp only [deliver, h, if_true, List.mem_map] at hd
  obtain ⟨l, -, rfl⟩ := hd
  exact ⟨l, rfl⟩

/-! ## What one delivery adds to each listener's account -/

theorem range_append_range' {a n : Nat} (h : a ≤ n) :
    List.range a ++ List.range' a (n - a) = List.range n := by
  have happ := List.range'_append_1 (s := 0) (m := a) (n := n - a)
  rw [Nat.zero_add, Nat.add_sub_cancel' h] at happ
  rw [List.range_eq_range', List.range_eq_range', happ]

theorem data_account {s : Ledger} (hc : ∀ c ∈ s.cursors, c ≤ s.chunks) (l : Nat) :
    List.range (s.cursors.getD l 0) ++ chunksFor l s.deliver.1 =
      List.range (s.deliver.2.cursors.getD l 0) := by
  cases herr : s.errored with
  | true => simp [deliver, herr, chunksFor_error]
  | false =>
    have hplan : chunksFor l s.deliver.1 =
        List.range' (s.cursors.getD l s.chunks) (s.chunks - s.cursors.getD l s.chunks) := by
      have h := chunksFor_pendingData s.chunks 0 l s.cursors
      rw [Nat.zero_add] at h
      cases hend : s.ended <;> simp [deliver, herr, hend, chunksFor_append, chunksFor_end, h]
    rw [hplan, deliver_cursors, herr, if_neg Bool.false_ne_true]
    rcases Nat.lt_or_ge l s.cursors.length with hl | hl
    · have hle := hc _ (List.getElem_mem hl)
      simpa [List.getD_eq_getElem?_getD, hl] using range_append_range' hle
    · simp [List.getD_eq_getElem?_getD, hl]

/-- Calling all listeners that have not fired leaves each of them called once. -/
theorem flag_account (fs : List Bool) (l : Nat) :
    (if fs.getD l false then 1 else 0) + (unfired 0 fs).count l =
      if (fs.map fun _ => true).getD l false then 1 else 0 := by
  have h := count_unfired 0 l fs
  rw [Nat.zero_add] at h
  rw [h]
  rcases Nat.lt_or_ge l fs.length with hl | hl
  · cases hf : fs[l] <;> simp [List.getD_eq_getElem?_getD, hl, hf]
  · simp [List.getD_eq_getElem?_getD, hl]

theorem count_error_map (l : Nat) (ls : List Nat) :
    (ls.map Delivery.error).count (.error l) = ls.count l :=
  List.count_map_of_injective _ Delivery.error (fun _ _ => Delivery.error.inj) l

theorem count_end_map (l : Nat) (ls : List Nat) :
    (ls.map Delivery.end).count (.end l) = ls.count l :=
  List.count_map_of_injective _ Delivery.end (fun _ _ => Delivery.end.inj) l

theorem error_account (s : Ledger) (l : Nat) :
    (if s.errorFired.getD l false then 1 else 0) + s.deliver.1.count (.error l) =
      if s.deliver.2.errorFired.getD l false then 1 else 0 := by
  rw [deliver_errorFired]
  cases herr : s.errored with
  | true => simpa [deliver, herr, count_error_map] using flag_account s.errorFired l
  | false =>
    have h0 : Delivery.error l ∉ s.deliver.1 := fun hm => by
      have := mem_deliver_error hm
      simp [herr] at this
    simp [List.count_eq_zero.mpr h0]

theorem end_account (s : Ledger) (l : Nat) :
    (if s.endFired.getD l false then 1 else 0) + s.deliver.1.count (.end l) =
      if s.deliver.2.endFired.getD l false then 1 else 0 := by
  rw [deliver_endFired]
  by_cases hopen : s.errored = false ∧ s.ended = true
  · obtain ⟨herr, hend⟩ := hopen
    have hdata : (pendingData s.chunks 0 s.cursors).count (.end l) = 0 := by
      refine List.count_eq_zero.mpr fun hm => ?_
      obtain ⟨l', c, hd, -⟩ := mem_pendingData hm
      cases hd
    have h := flag_account s.endFired l
    simpa [deliver, herr, hend, List.count_append, hdata, count_end_map] using h
  · have h0 : Delivery.end l ∉ s.deliver.1 := fun hm => hopen (mem_deliver_end hm).symm
    rw [if_neg hopen, List.count_eq_zero.mpr h0, Nat.add_zero]

/-! ## Histories -/

inductive Operation where
  | push | addData | addError | addEnd | finish | fail | deliver
  deriving Repr, DecidableEq

/-- A ledger together with the plans that were computed on the way to it, oldest first. -/
structure History where
  ledger : Ledger := {}
  plans : List (List Delivery) := []

namespace History

/-- Every listener call that was planned, in order. -/
def calls (h : History) : List Delivery := h.plans.flatten

def step (h : History) : Operation → History
  | .push => { h with ledger := h.ledger.push.2 }
  | .addData => { h with ledger := h.ledger.addData.2 }
  | .addError => { h with ledger := h.ledger.addError.2 }
  | .addEnd => { h with ledger := h.ledger.addEnd.2 }
  | .finish => { h with ledger := h.ledger.finish }
  | .fail => { h with ledger := h.ledger.fail.2 }
  | .deliver => ⟨h.ledger.deliver.2, h.plans ++ [h.ledger.deliver.1]⟩

/-- Applies operations in order. -/
def after (h : History) (ops : List Operation) : History := ops.foldl step h

theorem after_append (h : History) (ops rest : List Operation) :
    h.after (ops ++ rest) = (h.after ops).after rest := List.foldl_append

theorem calls_deliver (h : History) :
    (h.step .deliver).calls = h.calls ++ h.ledger.deliver.1 := by
  simp [calls, step]

/-- The account of a history: what each listener has been called with, read off its cursor or its
flag, and which kinds of calls the state of the ledger admits. -/
structure Kept (h : History) : Prop where
  data : ∀ l, chunksFor l h.calls = List.range (h.ledger.cursors.getD l 0)
  cursor_le : ∀ c ∈ h.ledger.cursors, c ≤ h.ledger.chunks
  error : ∀ l, h.calls.count (.error l) = if h.ledger.errorFired.getD l false then 1 else 0
  «end» : ∀ l, h.calls.count (.end l) = if h.ledger.endFired.getD l false then 1 else 0
  errored : ∀ l, .error l ∈ h.calls → h.ledger.errored = true
  ended : ∀ l, .end l ∈ h.calls → h.ledger.ended = true ∧ h.ledger.errored = false

theorem kept_new : Kept {} where
  data l := by simp [calls, chunksFor]
  cursor_le c hc := by cases hc
  error l := by simp [calls]
  «end» l := by simp [calls]
  errored l hm := by simp [calls] at hm
  ended l hm := by simp [calls] at hm

/-- A listener that is new in a list reads as the places beyond the list did. -/
theorem getD_append_default {α : Type} (xs : List α) (d : α) (l : Nat) :
    (xs ++ [d]).getD l d = xs.getD l d := by
  simp only [List.getD_eq_getElem?_getD, List.getElem?_append]
  split
  · rfl
  · rename_i hl
    have h1 : xs.length ≤ l := Nat.le_of_not_lt hl
    rw [List.getElem?_eq_none h1]
    cases h : l - xs.length <;> simp

theorem Kept.deliver {h : History} (k : Kept h) : Kept (h.step .deliver) where
  data l := by
    rw [calls_deliver, chunksFor_append, k.data]
    exact data_account k.cursor_le l
  cursor_le c hc := by
    have hf := deliver_frame h.ledger
    simp only [step, deliver_cursors, hf.1] at hc ⊢
    split at hc
    · exact k.cursor_le c hc
    · obtain ⟨-, -, rfl⟩ := List.mem_map.mp hc
      exact Nat.le_refl _
  error l := by
    rw [calls_deliver, List.count_append, k.error]
    exact error_account h.ledger l
  «end» l := by
    rw [calls_deliver, List.count_append, k.end]
    exact end_account h.ledger l
  errored l hm := by
    rw [calls_deliver, List.mem_append] at hm
    simp only [step, (deliver_frame h.ledger).2.2]
    rcases hm with hm | hm
    · exact k.errored l hm
    · exact mem_deliver_error hm
  ended l hm := by
    rw [calls_deliver, List.mem_append] at hm
    simp only [step, (deliver_frame h.ledger).2]
    rcases hm with hm | hm
    · exact k.ended l hm
    · exact mem_deliver_end hm

theorem Kept.step {h : History} (k : Kept h) (op : Operation) : Kept (h.step op) := by
  cases op with
  | push => exact ⟨k.data, fun c hc => Nat.le_succ_of_le (k.cursor_le c hc), k.error, k.end,
      k.errored, k.ended⟩
  | addData =>
    refine ⟨fun l => ?_, fun c hc => ?_, k.error, k.end, k.errored, k.ended⟩
    · exact (k.data l).trans (by rw [← getD_append_default h.ledger.cursors 0 l]; rfl)
    · rcases List.mem_append.mp hc with hc | hc
      · exact k.cursor_le c hc
      · rw [List.mem_singleton.mp hc]
        exact Nat.zero_le _
  | addError =>
    refine ⟨k.data, k.cursor_le, fun l => ?_, k.end, k.errored, k.ended⟩
    exact (k.error l).trans (by rw [← getD_append_default h.ledger.errorFired false l]; rfl)
  | addEnd =>
    refine ⟨k.data, k.cursor_le, k.error, fun l => ?_, k.errored, k.ended⟩
    exact (k.end l).trans (by rw [← getD_append_default h.ledger.endFired false l]; rfl)
  | finish => exact ⟨k.data, k.cursor_le, k.error, k.end, k.errored,
      fun l hm => ⟨rfl, (k.ended l hm).2⟩⟩
  | fail =>
    -- A ledger that has called an end listener has ended, so it cannot fail any more.
    cases hend : h.ledger.ended with
    | true => simpa [History.step, Ledger.fail, hend] using k
    | false =>
      simp only [History.step, Ledger.fail, hend, Bool.false_eq_true, if_false]
      refine ⟨k.data, k.cursor_le, k.error, k.end, fun _ _ => rfl, fun l hm => ?_⟩
      have := (k.ended l hm).1
      simp [hend] at this
  | deliver => exact k.deliver

theorem Kept.after {h : History} (k : Kept h) (ops : List Operation) : Kept (h.after ops) := by
  induction ops generalizing h with
  | nil => exact k
  | cons op ops ih => exact ih (k.step op)

/-- The lists of a ledger are as long as the operations that feed them are many. -/
theorem after_sizes (h : History) (ops : List Operation) :
    (h.after ops).ledger.chunks = h.ledger.chunks + ops.count .push ∧
      (h.after ops).ledger.cursors.length = h.ledger.cursors.length + ops.count .addData ∧
      (h.after ops).ledger.errorFired.length =
        h.ledger.errorFired.length + ops.count .addError ∧
      (h.after ops).ledger.endFired.length = h.ledger.endFired.length + ops.count .addEnd := by
  induction ops generalizing h with
  | nil => simp [after]
  | cons op ops ih =>
    have hstep := ih (h.step op)
    have hlen : (h.ledger.deliver.2.cursors.length = h.ledger.cursors.length ∧
        h.ledger.deliver.2.errorFired.length = h.ledger.errorFired.length ∧
        h.ledger.deliver.2.endFired.length = h.ledger.endFired.length) := by
      rw [deliver_cursors, deliver_errorFired, deliver_endFired]
      refine ⟨?_, ?_, ?_⟩ <;> split <;> simp
    simp only [after, List.foldl_cons, List.count_cons] at hstep ⊢
    cases op with
    | push => simp [step, Ledger.push] at hstep ⊢; omega
    | addData => simp [step, Ledger.addData] at hstep ⊢; omega
    | addError => simp [step, Ledger.addError] at hstep ⊢; omega
    | addEnd => simp [step, Ledger.addEnd] at hstep ⊢; omega
    | finish => simp [step, Ledger.finish] at hstep ⊢; omega
    | fail =>
      simp only [step, Ledger.fail] at hstep ⊢
      split at hstep <;> simp_all
    | deliver =>
      simp only [step, hlen, (deliver_frame h.ledger).1] at hstep ⊢
      simpa using hstep

/-- Right after a delivery everybody has had what the state of the ledger admits. -/
theorem Kept.caught_up {h : History} (k : Kept h) :
    (h.ledger.errored = false → ∀ l < h.ledger.cursors.length,
      chunksFor l (h.step .deliver).calls = List.range h.ledger.chunks) ∧
    (h.ledger.errored = true → ∀ l < h.ledger.errorFired.length,
      .error l ∈ (h.step .deliver).calls) ∧
    (h.ledger.ended = true → h.ledger.errored = false → ∀ l < h.ledger.endFired.length,
      .end l ∈ (h.step .deliver).calls) := by
  have k' := k.deliver
  refine ⟨fun herr l hl => ?_, fun herr l hl => ?_, fun hend herr l hl => ?_⟩
  · rw [k'.data]
    simp [History.step, deliver_cursors, herr, List.getD_eq_getElem?_getD, hl]
  · refine List.count_pos_iff.mp ?_
    rw [k'.error]
    simp [History.step, deliver_errorFired, herr, List.getD_eq_getElem?_getD, hl]
  · refine List.count_pos_iff.mp ?_
    rw [k'.end]
    simp [History.step, deliver_endFired, herr, hend, List.getD_eq_getElem?_getD, hl]

/-- Once errored, a ledger stays errored, and plans calls of error listeners only. -/
theorem after_errored {h : History} (herr : h.ledger.errored = true) (ops : List Operation) :
    ∃ late, (h.after ops).calls = h.calls ++ late ∧ ∀ d ∈ late, ∃ l, d = .error l := by
  induction ops generalizing h with
  | nil => exact ⟨[], by simp [after], by simp⟩
  | cons op ops ih =>
    have hstep : (h.step op).ledger.errored = true := by
      cases op with
      | fail => cases hend : h.ledger.ended <;> simp [step, Ledger.fail, hend, herr]
      | deliver => exact (deliver_frame h.ledger).2.2.trans herr
      | _ => exact herr
    obtain ⟨late, hcalls, hlate⟩ := ih hstep
    have hnow : ∃ now, (h.step op).calls = h.calls ++ now ∧ ∀ d ∈ now, ∃ l, d = .error l := by
      cases op with
      | deliver => exact ⟨_, calls_deliver h, fun d hd => mem_deliver_errored herr hd⟩
      | _ => exact ⟨[], by simp [step, calls], by simp⟩
    obtain ⟨now, hadd, hnow⟩ := hnow
    refine ⟨now ++ late, ?_, ?_⟩
    · rw [← List.append_assoc, ← hadd]
      exact hcalls
    · intro d hd
      rcases List.mem_append.mp hd with hd | hd
      · exact hnow d hd
      · exact hlate d hd

theorem plans_before (h : History) (hp : ∀ p ∈ h.plans, p.Pairwise Delivery.Before)
    (ops : List Operation) : ∀ p ∈ (h.after ops).plans, p.Pairwise Delivery.Before := by
  induction ops generalizing h with
  | nil => exact hp
  | cons op ops ih =>
    refine ih _ fun p hm => ?_
    cases op with
    | deliver =>
      rcases List.mem_append.mp hm with hm | hm
      · exact hp p hm
      · rw [List.mem_singleton.mp hm]
        exact deliver_before h.ledger
    | _ => exact hp p hm

end History

/-- The history of a new ledger. -/
def run (ops : List Operation) : History := ({} : History).after ops

/-- **Account.** Over any operations on a new ledger: a data listener gets an initial segment of
the chunks without repetition or gap, and all of them as soon as a delivery finds the ledger not
errored; error and end listeners are called at most once, and have been called right after a
delivery that finds the ledger errored, respectively ended; from a failure on only error listeners
are called; error and end calls exclude each other; and each plan is in order. -/
theorem run_account (ops : List Operation) :
    (∀ l, ∃ n ≤ ops.count .push, chunksFor l (run ops).calls = List.range n) ∧
    (∀ l, (run ops).calls.count (.error l) ≤ 1 ∧ (run ops).calls.count (.end l) ≤ 1) ∧
    ((run ops).ledger.errored = false → ∀ l < ops.count .addData,
      chunksFor l (run (ops ++ [.deliver])).calls = List.range (ops.count .push)) ∧
    ((run ops).ledger.errored = true → ∀ l < ops.count .addError,
      .error l ∈ (run (ops ++ [.deliver])).calls) ∧
    ((run ops).ledger.ended = true → (run ops).ledger.errored = false →
      ∀ l < ops.count .addEnd, .end l ∈ (run (ops ++ [.deliver])).calls) ∧
    ((run ops).ledger.fail.1 = true → ∀ rest, ∃ late,
      (run (ops ++ .fail :: rest)).calls = (run ops).calls ++ late ∧
        ∀ d ∈ late, ∃ l, d = .error l) ∧
    (∀ l l', .error l ∈ (run ops).calls → .end l' ∉ (run ops).calls) ∧
    (∀ plan ∈ (run ops).plans, plan.Pairwise Delivery.Before) := by
  have k : History.Kept (run ops) := History.kept_new.after ops
  obtain ⟨hchunks, hdata, herror, hend⟩ := History.after_sizes {} ops
  obtain ⟨hup, huperr, hupend⟩ := k.caught_up
  have hdeliver : run (ops ++ [.deliver]) = (run ops).step .deliver := by
    simp [run, History.after]
  simp only [Nat.zero_add, List.length_nil] at hchunks hdata herror hend
  refine ⟨fun l => ?_, fun l => ⟨?_, ?_⟩, ?_, ?_, ?_, ?_, ?_, ?_⟩
  · refine ⟨_, ?_, k.data l⟩
    rw [← hchunks]
    change _ ≤ (run ops).ledger.chunks
    rcases Nat.lt_or_ge l (run ops).ledger.cursors.length with hl | hl
    · simpa [List.getD_eq_getElem?_getD, hl] using k.cursor_le _ (List.getElem_mem hl)
    · simp [List.getD_eq_getElem?_getD, hl]
  · rw [k.error]; split <;> omega
  · rw [k.end]; split <;> omega
  · rw [hdeliver, ← hdata, ← hchunks]; exact hup
  · rw [hdeliver, ← herror]; exact huperr
  · rw [hdeliver, ← hend]; exact hupend
  · intro hfail rest
    have herr : ((run ops).step .fail).ledger.errored = true := by
      cases hopen : (run ops).ledger.ended <;> simp [Ledger.fail, hopen] at hfail
      simp [History.step, Ledger.fail, hopen]
    obtain ⟨late, hcalls, hlate⟩ := History.after_errored herr rest
    refine ⟨late, ?_, hlate⟩
    rw [show run (ops ++ .fail :: rest) = ((run ops).step .fail).after rest by
      simp [run, History.after], hcalls]
    rfl
  · intro l l' hl hl'
    have := (k.ended l' hl').2
    simp [k.errored l hl] at this
  · exact History.plans_before {} (by simp) ops

end Ledger
end GuestLint.Stream
