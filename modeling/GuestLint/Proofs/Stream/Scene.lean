import GuestLint.Stream.Channel
import GuestLint.Proofs.Stream.Ledger

/-!
# A channel and the calls that are still to be made

A delivery marks its whole plan as made and then makes the calls one by one. Each call may use the
channel again, so at any moment some deliveries are under way, each stopped at the call that it
made last. A `Scene` is a channel with what those deliveries have left to do.

* `Use`: what can be done to a channel. Its plan is computed before the first call is made.
* `Scene.step`: the guest uses the channel, or a call that waits comes back.
* `Sound`: every call that is planned can be made.
* `calls_replies`: when every call returns, all that was left to do is done.
* `OnlyErrors.fail`: a failure that finds no other call left is followed by error calls only.
-/
namespace GuestLint.Stream

variable {V L : Type}

def Notice.isError : Notice V → Bool
  | .error _ => true
  | _ => false

/-! ## What a channel has -/

namespace Channel

/-- The ledger counts what the lists hold. -/
structure InStep (c : Channel V L) : Prop where
  chunks : c.ledger.chunks = c.chunks.length
  data : c.ledger.cursors.length = c.dataListeners.length
  error : c.ledger.errorFired.length = c.errorListeners.length
  «end» : c.ledger.endFired.length = c.endListeners.length

theorem inStep_new : InStep ({} : Channel V L) := ⟨rfl, rfl, rfl, rfl⟩

/-- A call that the ledger knows can be made. -/
theorem InStep.notice {c : Channel V L} (h : c.InStep) {d : Delivery} (hd : c.ledger.Has d) :
    ∃ told, c.notice? d = some told := by
  cases d with
  | data l k =>
    have hl : l < c.dataListeners.length := h.data ▸ hd.1
    have hk : k < c.chunks.length := h.chunks ▸ hd.2
    exact ⟨_, by simp only [notice?, List.getElem?_eq_getElem hl, List.getElem?_eq_getElem hk]; rfl⟩
  | error l =>
    have hl : l < c.errorListeners.length := h.error ▸ hd
    exact ⟨_, by simp only [notice?, List.getElem?_eq_getElem hl]; rfl⟩
  | «end» l =>
    have hl : l < c.endListeners.length := h.end ▸ hd
    exact ⟨_, by simp only [notice?, List.getElem?_eq_getElem hl]; rfl⟩

/-- Only the calls of error listeners tell of an error. -/
theorem notice?_isError {c : Channel V L} {d : Delivery} {told : L × Notice V}
    (h : c.notice? d = some told) : told.2.isError = true ↔ ∃ k, d = .error k := by
  cases d with
  | data k i =>
    cases hl : c.dataListeners[k]? <;> cases hk : c.chunks[i]? <;> simp [notice?, hl, hk] at h
    simp [← h, Notice.isError]
  | error k =>
    cases hl : c.errorListeners[k]? <;> simp [notice?, hl] at h
    simp [← h, Notice.isError]
  | «end» k =>
    cases hl : c.endListeners[k]? <;> simp [notice?, hl] at h
    simp [← h, Notice.isError]

theorem fail_eq (c : Channel V L) (reason : V) :
    c.fail reason =
      if c.ledger.ended then c
      else { c with ledger := { c.ledger with errored := true }, reason := some reason } := by
  cases h : c.ledger.ended <;> simp [fail, Ledger.fail, h]

/-- The calls that are due. -/
def due (c : Channel V L) : List Delivery := c.ledger.deliver.1

/-- The channel with what is due marked as made. -/
def marked (c : Channel V L) : Channel V L := { c with ledger := c.ledger.deliver.2 }

theorem marked_has (c : Channel V L) (d : Delivery) : c.marked.ledger.Has d ↔ c.ledger.Has d := by
  have hlen : ∀ (b : Prop) [Decidable b] {α : Type} (xs ys : List α), xs.length = ys.length →
      (if b then xs else ys).length = ys.length := by
    intro b _ α xs ys h
    split
    · exact h
    · rfl
  cases d with
  | data l k =>
    simp only [marked, Ledger.Has, Ledger.deliver_cursors, (Ledger.deliver_frame _).1]
    split <;> simp
  | error l =>
    simp only [marked, Ledger.Has, Ledger.deliver_errorFired]
    rw [hlen _ _ _ (List.length_map _)]
  | «end» l =>
    simp only [marked, Ledger.Has, Ledger.deliver_endFired]
    rw [hlen _ _ _ (List.length_map _)]

theorem InStep.marked {c : Channel V L} (h : c.InStep) : c.marked.InStep := by
  constructor
  · exact (Ledger.deliver_frame _).1.trans h.chunks
  · simp only [Channel.marked, Ledger.deliver_cursors]
    split <;> simp [h.data]
  · simp only [Channel.marked, Ledger.deliver_errorFired]
    split <;> simp [h.error]
  · simp only [Channel.marked, Ledger.deliver_endFired]
    split <;> simp [h.end]

end Channel

/-! ## Uses -/

inductive Use (V L : Type) where
  | push (chunk : V)
  | listen (event : Event) (listener : L)
  | finish
  | acknowledge (reason : Option V)

def Seat.use {m : Type → Type} [Monad m] (seat : Seat m V L) : Use V L → m Unit
  | .push chunk => seat.push chunk
  | .listen event listener => seat.listen event listener
  | .finish => seat.finish
  | .acknowledge reason => seat.acknowledge reason

namespace Use

/-- What a use changes before anything is delivered. -/
def change (c : Channel V L) : Use V L → Channel V L
  | .push chunk => c.push chunk
  | .listen event listener => c.add event listener
  | .finish => c.finish
  | .acknowledge (some reason) => c.fail reason
  | .acknowledge none => c

/-- The calls that a use sets out to make. -/
def plan (c : Channel V L) : Use V L → List Delivery
  | .push _ => []
  | u => (u.change c).due

/-- The channel as the first call finds it. -/
def after (c : Channel V L) : Use V L → Channel V L
  | .push chunk => c.push chunk
  | u => (u.change c).marked

variable {c : Channel V L}

theorem change_inStep (h : c.InStep) (u : Use V L) : (u.change c).InStep := by
  obtain ⟨hchunks, hdata, herror, hend⟩ := h
  cases u with
  | push chunk => constructor <;> simp [change, Channel.push, Ledger.push, *]
  | listen event l =>
    cases event <;> constructor <;>
      simp [change, Channel.add, Ledger.addData, Ledger.addError, Ledger.addEnd, *]
  | finish => constructor <;> simp [change, Channel.finish, Ledger.finish, *]
  | acknowledge reason =>
    cases reason with
    | none => exact ⟨hchunks, hdata, herror, hend⟩
    | some e =>
      simp only [change, Channel.fail_eq]
      split <;> exact ⟨hchunks, hdata, herror, hend⟩

theorem change_has {d : Delivery} (h : c.ledger.Has d) (u : Use V L) :
    (u.change c).ledger.Has d := by
  cases u with
  | push chunk =>
    cases d with
    | data l k => exact ⟨h.1, Nat.lt_succ_of_lt h.2⟩
    | _ => exact h
  | listen event l =>
    cases event <;> cases d <;>
      simp only [change, Channel.add, Ledger.addData, Ledger.addError, Ledger.addEnd, Ledger.Has,
        List.length_append] at h ⊢ <;> omega
  | finish => cases d <;> exact h
  | acknowledge reason =>
    cases reason with
    | none => exact h
    | some e =>
      simp only [change, Channel.fail_eq]
      split
      · exact h
      · cases d <;> exact h

theorem change_errored (h : c.ledger.errored = true) (u : Use V L) :
    (u.change c).ledger.errored = true := by
  cases u with
  | listen event l => cases event <;> exact h
  | acknowledge reason =>
    cases reason with
    | none => exact h
    | some e =>
      simp only [change, Channel.fail_eq]
      split
      · exact h
      · rfl
  | _ => exact h

theorem after_inStep (h : c.InStep) (u : Use V L) : (u.after c).InStep := by
  cases u with
  | push chunk => exact change_inStep h (.push chunk)
  | _ => exact (change_inStep h _).marked

theorem after_has {d : Delivery} (h : c.ledger.Has d) (u : Use V L) :
    (u.after c).ledger.Has d := by
  cases u with
  | push chunk => exact change_has h (.push chunk)
  | _ => exact (Channel.marked_has _ d).mpr (change_has h _)

/-- A use plans calls that can be made. -/
theorem plan_has {d : Delivery} {u : Use V L} (hd : d ∈ u.plan c) : (u.after c).ledger.Has d := by
  cases u with
  | push chunk => cases hd
  | _ => exact (Channel.marked_has _ d).mpr (Ledger.deliver_has hd)

theorem after_errored {u : Use V L} (h : (u.change c).ledger.errored = true) :
    (u.after c).ledger.errored = true := by
  cases u with
  | push chunk => exact h
  | _ => exact (Ledger.deliver_frame _).2.2.trans h

theorem plan_errored {u : Use V L} (h : (u.change c).ledger.errored = true) {d : Delivery}
    (hd : d ∈ u.plan c) : ∃ l, d = .error l := by
  cases u with
  | push chunk => cases hd
  | _ => exact Ledger.mem_deliver_errored h hd

end Use

/-! ## Scenes -/

/-- A channel in the middle of its deliveries. -/
structure Scene (V L : Type) where
  channel : Channel V L := {}
  /-- For each call that waits, innermost first, the calls that its delivery has left to make. -/
  waiting : List (List Delivery) := []

/-- A call that is made: what was planned, and what the listener is told. -/
structure Made (V L : Type) where
  delivery : Delivery
  told : Option (L × Notice V)

inductive Turn (V L : Type) where
  | use (u : Use V L)
  /-- The guest waits for something that is no delivery. -/
  | wait
  /-- What waits comes back. The delivery that it belongs to goes on only when it returned. -/
  | reply (returned : Bool)

namespace Scene

/-- Makes the first call of a plan and keeps the rest for later. -/
def begin (s : Scene V L) : List Delivery → Scene V L × Option (Made V L)
  | [] => (s, none)
  | d :: rest => ({ s with waiting := rest :: s.waiting }, some ⟨d, s.channel.notice? d⟩)

def step (s : Scene V L) : Turn V L → Scene V L × Option (Made V L)
  | .use u => begin { s with channel := u.after s.channel } (u.plan s.channel)
  | .wait => ({ s with waiting := [] :: s.waiting }, none)
  | .reply returned =>
    match s.waiting with
    | [] => (s, none)
    | plan :: rest => begin { s with waiting := rest } (if returned then plan else [])

def after (s : Scene V L) : List (Turn V L) → Scene V L
  | [] => s
  | t :: ts => (s.step t).1.after ts

/-- The calls that are made on the way, in order. -/
def calls (s : Scene V L) : List (Turn V L) → List (Made V L)
  | [] => []
  | t :: ts => (s.step t).2.toList ++ (s.step t).1.calls ts

theorem after_append (s : Scene V L) (ts rest : List (Turn V L)) :
    s.after (ts ++ rest) = (s.after ts).after rest := by
  induction ts generalizing s with
  | nil => rfl
  | cons t ts ih => exact ih _

theorem calls_append (s : Scene V L) (ts rest : List (Turn V L)) :
    s.calls (ts ++ rest) = s.calls ts ++ (s.after ts).calls rest := by
  induction ts generalizing s with
  | nil => rfl
  | cons t ts ih =>
    show _ ++ (s.step t).1.calls (ts ++ rest) = _
    rw [ih, ← List.append_assoc]
    rfl

theorem begin_told {s : Scene V L} {plan : List Delivery} {call : Made V L}
    (h : call ∈ (s.begin plan).2) : call.told = (s.begin plan).1.channel.notice? call.delivery := by
  cases plan with
  | nil => cases h
  | cons d rest =>
    cases h
    rfl

/-- What a listener is told is what the channel has for it when the call is made. -/
theorem step_told {s : Scene V L} {t : Turn V L} {call : Made V L} (h : call ∈ (s.step t).2) :
    call.told = (s.step t).1.channel.notice? call.delivery := by
  cases t with
  | use u => exact begin_told h
  | wait => cases h
  | reply returned =>
    unfold step at h ⊢
    cases hw : s.waiting with
    | nil => simp [hw] at h
    | cons plan rest =>
      simp only [hw] at h ⊢
      exact begin_told h

theorem calls_told {s : Scene V L} {ts : List (Turn V L)} {call : Made V L}
    (h : call ∈ s.calls ts) : ∃ c : Channel V L, call.told = c.notice? call.delivery := by
  induction ts generalizing s with
  | nil => cases h
  | cons t ts ih =>
    rcases List.mem_append.mp h with h | h
    · exact ⟨_, step_told (Option.mem_toList.mp h)⟩
    · exact ih h

/-! ### Every planned call can be made -/

structure Sound (s : Scene V L) : Prop where
  inStep : s.channel.InStep
  has : ∀ plan ∈ s.waiting, ∀ d ∈ plan, s.channel.ledger.Has d

theorem sound_new : Sound ({} : Scene V L) := ⟨Channel.inStep_new, by simp⟩

theorem Sound.begin {s : Scene V L} (h : s.Sound) {plan : List Delivery}
    (hp : ∀ d ∈ plan, s.channel.ledger.Has d) : (s.begin plan).1.Sound := by
  cases plan with
  | nil => exact h
  | cons d rest =>
    refine ⟨h.inStep, fun p hm => ?_⟩
    rcases List.mem_cons.mp hm with rfl | hm
    · exact fun e he => hp e (List.mem_cons_of_mem _ he)
    · exact h.has p hm

theorem Sound.step {s : Scene V L} (h : s.Sound) (t : Turn V L) : (s.step t).1.Sound := by
  cases t with
  | use u =>
    refine Sound.begin ⟨Use.after_inStep h.inStep u, fun p hm d hd => ?_⟩ fun d => Use.plan_has
    exact Use.after_has (h.has p hm d hd) u
  | wait => exact ⟨h.inStep, by simpa [Scene.step] using h.has⟩
  | reply returned =>
    unfold Scene.step
    cases hw : s.waiting with
    | nil => exact h
    | cons plan rest =>
      have hs := h.has
      rw [hw] at hs
      have hrest : Sound { s with waiting := rest } :=
        ⟨h.inStep, fun p hm => hs p (List.mem_cons_of_mem _ hm)⟩
      refine hrest.begin fun d hd => ?_
      cases returned with
      | true => exact hs plan List.mem_cons_self d hd
      | false => cases hd

theorem Sound.after {s : Scene V L} (h : s.Sound) (ts : List (Turn V L)) : (s.after ts).Sound := by
  induction ts generalizing s with
  | nil => exact h
  | cons t ts ih => exact ih (h.step t)

/-! ### What is left when every call returns -/

/-- How many answers it takes until nothing waits. -/
def answersOf : List (List Delivery) → Nat
  | [] => 0
  | plan :: rest => plan.length + 1 + answersOf rest

/-- When every call returns, all calls that were left are made, innermost delivery first. -/
theorem calls_replies (s : Scene V L) :
    (s.calls (List.replicate (answersOf s.waiting) (.reply true))).map (·.delivery) =
      s.waiting.flatten := by
  generalize hn : answersOf s.waiting = n
  induction n generalizing s with
  | zero =>
    cases hw : s.waiting with
    | nil => rfl
    | cons plan rest =>
      rw [hw, answersOf] at hn
      omega
  | succ n ih =>
    cases hw : s.waiting with
    | nil => simp [answersOf, hw] at hn
    | cons plan rest =>
      rw [hw, answersOf] at hn
      have hstep : s.step (.reply true) = begin { s with waiting := rest } plan := by
        simp [step, hw]
      simp only [List.replicate_succ, calls, hstep]
      cases plan with
      | nil =>
        rw [List.length_nil] at hn
        exact (ih { s with waiting := rest } (by show answersOf rest = n; omega)).trans (by simp)
      | cons d plan =>
        rw [List.length_cons] at hn
        have hrest := ih { s with waiting := plan :: rest }
          (by show plan.length + 1 + answersOf rest = n; omega)
        simp only [begin, Option.toList_some, List.singleton_append, List.map_cons, hrest]
        rfl

/-! ### Failures -/

/-- The channel is errored, and no delivery has a call of another kind left. -/
structure OnlyErrors (s : Scene V L) : Prop where
  errored : s.channel.ledger.errored = true
  waiting : ∀ plan ∈ s.waiting, ∀ d ∈ plan, ∃ l, d = .error l

theorem OnlyErrors.begin {s : Scene V L} (h : s.OnlyErrors) {plan : List Delivery}
    (hp : ∀ d ∈ plan, ∃ l, d = .error l) :
    (s.begin plan).1.OnlyErrors ∧ ∀ call ∈ (s.begin plan).2, ∃ l, call.delivery = .error l := by
  cases plan with
  | nil => exact ⟨h, by simp [Scene.begin]⟩
  | cons d rest =>
    refine ⟨⟨h.errored, fun p hm => ?_⟩, fun call hc => ?_⟩
    · rcases List.mem_cons.mp hm with rfl | hm
      · exact fun e he => hp e (List.mem_cons_of_mem _ he)
      · exact h.waiting p hm
    · cases hc
      exact hp d List.mem_cons_self

/-- A use that leaves the channel errored plans error calls only. -/
theorem OnlyErrors.use {s : Scene V L} (hw : ∀ plan ∈ s.waiting, ∀ d ∈ plan, ∃ l, d = .error l)
    {u : Use V L} (hu : (u.change s.channel).ledger.errored = true) :
    (s.step (.use u)).1.OnlyErrors ∧
      ∀ call ∈ (s.step (.use u)).2, ∃ l, call.delivery = .error l :=
  OnlyErrors.begin (s := { s with channel := u.after s.channel }) ⟨Use.after_errored hu, hw⟩
    fun _ hd => Use.plan_errored hu hd

theorem OnlyErrors.step {s : Scene V L} (h : s.OnlyErrors) (t : Turn V L) :
    (s.step t).1.OnlyErrors ∧ ∀ call ∈ (s.step t).2, ∃ l, call.delivery = .error l := by
  cases t with
  | use u => exact OnlyErrors.use h.waiting (Use.change_errored h.errored u)
  | wait => exact ⟨⟨h.errored, by simpa [Scene.step] using h.waiting⟩, by simp [Scene.step]⟩
  | reply returned =>
    unfold Scene.step
    cases hw : s.waiting with
    | nil => exact ⟨h, by simp⟩
    | cons plan rest =>
      have hs := h.waiting
      rw [hw] at hs
      have hrest : OnlyErrors { s with waiting := rest } :=
        ⟨h.errored, fun p hm => hs p (List.mem_cons_of_mem _ hm)⟩
      refine hrest.begin ?_
      cases returned with
      | true => exact hs plan List.mem_cons_self
      | false => intro d hd; cases hd

theorem OnlyErrors.calls {s : Scene V L} (h : s.OnlyErrors) (ts : List (Turn V L)) :
    ∀ call ∈ s.calls ts, ∃ l, call.delivery = .error l := by
  induction ts generalizing s with
  | nil => simp [Scene.calls]
  | cons t ts ih =>
    intro call hc
    rcases List.mem_append.mp hc with hc | hc
    · exact (h.step t).2 call (by simpa using hc)
    · exact ih (h.step t).1 call hc

/-- A failing write of a channel that has not ended. -/
theorem OnlyErrors.fail {s : Scene V L} (hopen : s.channel.ledger.fail.1 = true) (reason : V)
    (hw : ∀ plan ∈ s.waiting, ∀ d ∈ plan, ∃ l, d = .error l) (ts : List (Turn V L)) :
    ∀ call ∈ s.calls (.use (.acknowledge (some reason)) :: ts), ∃ l, call.delivery = .error l := by
  have herr : (Use.change s.channel (.acknowledge (some reason))).ledger.errored = true := by
    cases hend : s.channel.ledger.ended <;> simp [Ledger.fail, hend] at hopen
    simp [Use.change, Channel.fail_eq, hend]
  intro call hc
  have hfail := OnlyErrors.use hw herr
  rcases List.mem_append.mp hc with hc | hc
  · exact hfail.2 call (by simpa using hc)
  · exact hfail.1.calls ts call hc

/-- The deliveries that are under way stay under way when another one begins. -/
theorem mem_waiting_begin (s : Scene V L) (plan : List Delivery) {p : List Delivery}
    (hp : p ∈ s.waiting) : p ∈ (s.begin plan).1.waiting := by
  cases plan with
  | nil => exact hp
  | cons d rest => exact List.mem_cons_of_mem _ hp

/-- What is left of the deliveries under way is still done after a use, when every call
returns. -/
theorem calls_use_replies (s : Scene V L) (u : Use V L) :
    ∃ n, ∀ plan ∈ s.waiting, ∀ d ∈ plan,
      ∃ call ∈ s.calls (.use u :: List.replicate n (.reply true)), call.delivery = d := by
  let s' := (s.step (.use u)).1
  refine ⟨answersOf s'.waiting, fun plan hp d hd => ?_⟩
  have hd' : d ∈ (s'.calls (List.replicate (answersOf s'.waiting) (.reply true))).map
      (·.delivery) := by
    rw [calls_replies]
    exact List.mem_flatten.mpr ⟨plan, mem_waiting_begin _ _ hp, hd⟩
  obtain ⟨call, hc, rfl⟩ := List.mem_map.mp hd'
  exact ⟨call, List.mem_append_right _ hc, rfl⟩

end Scene
end GuestLint.Stream
