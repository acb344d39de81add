import GuestLint.Proofs.Builtin.StreamOrder
import GuestLint.Proofs.Stream.Account

/-!
# What listeners of guest streams get, and what they miss

Every listener call of a stream is made for one registration, and a data call for one chunk. No
call is made twice, whatever the guest does. But a call may be missed: a delivery marks its whole
plan as made before the first call, so when a listener throws, the calls that stand behind it in
the plan are given up for good.

* `turns_uses`: the uses of a scene are those that the guest sees.
* `calls_once`: for every run on a new stream, each call stands for a registration and a chunk of
  its own.
* `handed_over_iff`: when an operation that delivers has come to its end, which of the calls that
  are owed have been made.
* `throw_loses`: a data listener that never gets its chunk, because another one has thrown.
-/
namespace GuestLint.Builtin

open Guest
open Dialogue (Talk Stage Conf)
open GuestLint.Stream (Channel Notice Event Use Scene Turn Made Delivery)

variable {call : Call} {channel : Nat} {stream : Ref}

abbrev StreamEvent := Dialogue.Event Deed Ask Stop Unit

/-! ## What is pushed and registered -/

/-- The uses of a stream, in order. -/
def usesIn (events : List StreamEvent) : List (Use Value Value) :=
  events.filterMap fun
    | .called (.use u) => some u
    | _ => none

/-- The chunks that are pushed, in order. -/
def pushedChunks (events : List StreamEvent) : List Value :=
  (usesIn events).filterMap Use.chunk?

/-- The listeners that are registered for an event, in order. -/
def registered (event : Event) (events : List StreamEvent) : List Value :=
  (usesIn events).filterMap (Use.listener? event)

/-- A listener call as the call of one registration, for data with one chunk. -/
def StandsFor (events : List StreamEvent) : Delivery → Value × Notice Value → Prop
  | .data l k, told => ∃ listener chunk, (registered .data events)[l]? = some listener ∧
      (pushedChunks events)[k]? = some chunk ∧ told = (listener, .data chunk)
  | .error l, told => ∃ listener reason, (registered .error events)[l]? = some listener ∧
      told = (listener, .error reason)
  | .end l, told => ∃ listener, (registered .end events)[l]? = some listener ∧
      told = (listener, .end)

theorem usesIn_append (es es' : List StreamEvent) :
    usesIn (es ++ es') = usesIn es ++ usesIn es' := List.filterMap_append

/-- Handing control back is no use. -/
theorem usesIn_settle (frames : List (Dialogue.Frame World Ask Stop Unit))
    (stage : Stage World Ask Stop Unit) :
    usesIn [(Conf.settle frames stage : StreamConf × StreamEvent).2] = [] := by
  cases stage <;> rfl

/-- The uses among the turns of a move are those among its events. -/
theorem turnsOf_uses (c : StreamConf) (m : GuestMove channel) :
    (turnsOf channel stream c m).filterMap Turn.use? =
      usesIn (c.step (code call channel stream) m).2 := by
  cases m with
  | call deed =>
    have hsettle := usesIn_settle c.frames (code call channel stream deed c.state)
    cases deed with
    | use u => exact (congrArg (u :: ·) hsettle).symm
    | write chunk =>
      refine Eq.trans ?_ hsettle.symm
      simp only [turnsOf]
      split <;> rfl
  | answer r =>
    have hnone : (turnsOf channel stream c (.answer r : GuestMove channel)).filterMap Turn.use? =
        [] := by cases r <;> rfl
    rw [hnone]
    unfold Conf.step
    cases c.frames with
    | nil => rfl
    | cons f rest => exact (usesIn_settle rest (f.next r c.state)).symm
  | between f spares => rfl

/-- The uses of the scene are those that the guest sees. -/
theorem turns_uses (c : StreamConf) (moves : List (GuestMove channel)) :
    (turns call channel stream c moves).filterMap Turn.use? =
      usesIn (c.events (code call channel stream) moves) := by
  induction moves generalizing c with
  | nil => rfl
  | cons m moves ih =>
    refine List.filterMap_append.trans ?_
    exact (congrArg₂ _ (turnsOf_uses c m) (ih _)).trans (usesIn_append _ _).symm

theorem turns_append (c : StreamConf) (moves rest : List (GuestMove channel)) :
    turns call channel stream c (moves ++ rest) =
      turns call channel stream c moves ++
        turns call channel stream (c.after (code call channel stream) moves) rest := by
  induction moves generalizing c with
  | nil => rfl
  | cons m moves ih =>
    simp only [List.cons_append, turns, ih, List.append_assoc]
    rfl

/-- The channel of a new stream holds what was pushed and registered. -/
theorem held_chunks (call : Call) (w : World) (stream : Ref)
    (moves : List (GuestMove w.channels.size)) :
    (({} : Scene Value Value).after (turnsOn call w stream moves)).channel.chunks =
      pushedChunks ((opened w stream).events (code call w.channels.size stream) moves) := by
  rw [Scene.after_chunks, turnsOn, turns_uses]
  rfl

theorem held_listeners (call : Call) (w : World) (stream : Ref)
    (moves : List (GuestMove w.channels.size)) (event : Event) :
    (({} : Scene Value Value).after (turnsOn call w stream moves)).channel.listeners event =
      registered event
        ((opened w stream).events (code call w.channels.size stream) moves) := by
  rw [Scene.after_listeners, turnsOn, turns_uses]
  cases event <;> rfl

/-! ## Each call is made once -/

/-- What a call tells is what was registered and pushed under its indices. -/
theorem standsFor_of_tells {c : Channel Value Value} {events : List StreamEvent}
    (hchunks : c.chunks = pushedChunks events)
    (hlisteners : ∀ event, c.listeners event = registered event events) {d : Delivery}
    {told : Value × Notice Value} (h : Scene.Tells c d told) : StandsFor events d told := by
  obtain ⟨listener, notice⟩ := told
  cases d with
  | data l k =>
    have hdata : c.dataListeners = registered .data events := hlisteners .data
    simp only [Scene.Tells, Channel.notice?, hdata, hchunks] at h
    cases hl : (registered .data events)[l]? <;> cases hk : (pushedChunks events)[k]? <;>
      simp [hl, hk] at h
    exact ⟨_, _, hl, hk, by simp [h]⟩
  | error l =>
    obtain ⟨hl, herror⟩ := h
    have hdata : c.errorListeners = registered .error events := hlisteners .error
    cases notice with
    | error reason => exact ⟨listener, reason, hdata ▸ hl, rfl⟩
    | _ => cases herror
  | «end» l =>
    have hdata : c.endListeners = registered .end events := hlisteners .end
    simp only [Scene.Tells, Channel.notice?, hdata] at h
    cases hl : (registered .end events)[l]? <;> simp [hl] at h
    exact ⟨_, hl, by simp [h]⟩

/-- The calls of a scene and those that the guest sees, side by side. -/
theorem Agrees.forall₂ {R : Delivery → Value × Notice Value → Prop}
    {calls : List (Made Value Value)} {events : List StreamEvent} (h : Agrees calls events)
    (hR : ∀ made ∈ calls, ∃ told, made.told = some told ∧ R made.delivery told) :
    List.Forall₂ R (calls.map (·.delivery)) (listenerCalls events) := by
  unfold Agrees at h
  generalize listenerCalls events = given at h
  induction calls generalizing given with
  | nil =>
    rw [List.map_eq_nil_iff.mp h.symm]
    exact .nil
  | cons made calls ih =>
    cases given with
    | nil => simp at h
    | cons told given =>
      obtain ⟨hnow, hlater⟩ := List.cons.inj h
      obtain ⟨told', htold, hrel⟩ := hR made List.mem_cons_self
      obtain rfl : told' = told := Option.some.inj (htold.symm.trans hnow)
      exact .cons hrel (ih (fun m hm => hR m (List.mem_cons_of_mem _ hm)) given hlater)

/-- **Once.** Whatever the guest does with a new stream, each listener call that it sees stands for
a registration, and for data also for a chunk that was pushed; no two calls stand for the same.
A listener is called with the stream as its receiver. -/
theorem calls_once (call : Call) (w : World) (stream : Ref)
    (moves : List (GuestMove w.channels.size)) :
    (∀ deed, Carries (host call w.channels.size stream) (code call w.channels.size stream deed)
      (perform call w.channels.size stream deed)) ∧
    (∀ listener notice, host call w.channels.size stream (.listener listener notice) = (do
      let _ ← call listener (.object stream) (noticeArgs notice))) ∧
    ∃ made : List Delivery, made.Nodup ∧
      List.Forall₂
        (StandsFor ((opened w stream).events (code call w.channels.size stream) moves)) made
        (listenerCalls ((opened w stream).events (code call w.channels.size stream) moves)) := by
  obtain ⟨-, hagrees⟩ := (follows_opened call w stream).after moves
  refine ⟨code_carries, fun _ _ => rfl, _, Scene.calls_nodup (turnsOn call w stream moves), ?_⟩
  refine Agrees.forall₂ hagrees fun made hmade => ?_
  obtain ⟨told, htold, htells⟩ := Scene.sound_new.calls_tell _ made hmade
  refine ⟨told, htold, ?_⟩
  exact standsFor_of_tells (held_chunks call w stream moves) (held_listeners call w stream moves)
    htells

/-! ## Deliveries that have come to their end -/

def Ask.isListener : Ask → Bool
  | .listener _ _ => true
  | .consumer _ _ => false

/-- No listener of the stream is running. A consumer may be, when its callback is at work. -/
def Resting (c : StreamConf) : Prop := ∀ q ∈ c.questions, q.isListener = false

/-- What waits for a consumer has no listener calls left. -/
def ConsumersDone (s : Scene Value Value) (c : StreamConf) : Prop :=
  List.Forall₂ (fun f plan => f.question.isListener = false → plan = []) c.frames s.waiting

theorem Follows.begin_consumersDone {s : Scene Value Value} {w : World}
    {frames : List (Dialogue.Frame World Ask Stop Unit)}
    (h : Follows call channel stream s ⟨w, frames⟩) (hdone : ConsumersDone s ⟨w, frames⟩)
    {plan : List Delivery} (hp : ∀ d ∈ plan, s.channel.ledger.Has d) :
    ConsumersDone (s.begin plan).1
      (Conf.settle frames ((seatTalk call channel stream).carryOutAll plan w) :
        StreamConf × StreamEvent).1 := by
  cases plan with
  | nil => exact hdone
  | cons d rest =>
    obtain ⟨told, htold⟩ := h.sound.inStep.notice (hp d List.mem_cons_self)
    rw [carryOutAll_cons_run h.held htold]
    exact .cons (fun hq => nomatch hq) hdone

/-- Only listener calls leave a plan behind. -/
theorem Follows.step_consumersDone {s : Scene Value Value} {c : StreamConf}
    (h : Follows call channel stream s c) (hdone : ConsumersDone s c) (m : GuestMove channel) :
    ConsumersDone (s.after (turnsOf channel stream c m))
      (c.step (code call channel stream) m).1 := by
  cases m with
  | call deed =>
    cases deed with
    | use u =>
      obtain ⟨w', hrun, hused⟩ := h.used u
      have hbegin := hused.begin_consumersDone hdone fun d => Use.plan_has (c := s.channel) (u := u)
      simp only [turnsOf, Scene.after, Conf.step, code, hrun]
      exact hbegin
    | write chunk =>
      simp only [turnsOf, Conf.step, code]
      cases hread : run c.state (readConsumer channel stream chunk) with
      | mk r w' =>
        rw [Talk.bind_run, hosted_run hread]
        cases r with
        | ok p => exact .cons (fun _ => rfl) hdone
        | error e => exact hdone
  | answer r =>
    cases hw : s.waiting with
    | nil =>
      have hnone : c.frames = [] := by simpa [GoesOnWith, hw] using h.frames
      cases r <;> simpa [turnsOf, Scene.after, Scene.step, hw, Conf.step, hnone] using hdone
    | cons plan rest =>
      obtain ⟨f, frames, hc, hf, hhas, hrest⟩ := h.answer hw
      unfold ConsumersDone at hdone
      rw [hc, hw] at hdone
      obtain ⟨-, hlater⟩ := List.forall₂_cons.mp hdone
      cases r with
      | ok a =>
        have hbegin := hrest.begin_consumersDone hlater hhas
        simp only [turnsOf, Scene.after, Scene.step, hw, Conf.step, hc, hf, Talk.resume, if_true]
        exact hbegin
      | error e =>
        simp only [turnsOf, Scene.after, Scene.step, hw, Conf.step, hc, hf, Talk.resume,
          Bool.false_eq_true, if_false]
        exact hlater
  | between f spares => exact hdone

theorem Follows.after_consumersDone {s : Scene Value Value} {c : StreamConf}
    (h : Follows call channel stream s c) (hdone : ConsumersDone s c)
    (moves : List (GuestMove channel)) :
    ConsumersDone (s.after (turns call channel stream c moves))
      (c.after (code call channel stream) moves) := by
  induction moves generalizing s c with
  | nil => exact hdone
  | cons m moves ih =>
    rw [turns, Scene.after_append]
    exact ih (h.step m).1 (h.step_consumersDone hdone m)

/-- While no listener is running, no delivery has a call left. -/
theorem ConsumersDone.nothing_left {s : Scene Value Value} {c : StreamConf}
    (h : ConsumersDone s c) (hrest : Resting c) : s.waiting.flatten = [] := by
  unfold Resting Conf.questions at hrest
  unfold ConsumersDone at h
  generalize c.frames = frames at h hrest
  generalize s.waiting = waiting at h
  induction h with
  | nil => rfl
  | cons hplan _ ih =>
    rw [List.flatten_cons, hplan (hrest _ List.mem_cons_self)]
    exact ih fun q hq => hrest q (List.mem_cons_of_mem _ hq)

/-- While the guest starts nothing, the channel stays as it is. -/
theorem after_replies_channel (s : Scene Value Value) {c : StreamConf}
    {moves : List (GuestMove channel)} (hmoves : ∀ deed, .call deed ∉ moves) :
    (s.after (turns call channel stream c moves)).channel = s.channel := by
  have hnone : usesIn (c.events (code call channel stream) moves) = [] := by
    induction moves generalizing c with
    | nil => rfl
    | cons m moves ih =>
      have hlater := ih (c := (c.step (code call channel stream) m).1) fun deed hm =>
        hmoves deed (List.mem_cons_of_mem m hm)
      refine (usesIn_append _ _).trans ?_
      refine (congrArg (_ ++ ·) hlater).trans ?_
      rw [List.append_nil, ← turnsOf_uses]
      cases m with
      | call deed => exact absurd List.mem_cons_self (hmoves deed)
      | answer r => cases r <;> rfl
      | between f spares => rfl
  rw [Scene.after_channel, turns_uses, hnone]
  rfl

/-! ## Calls that are given up -/

/-- The listener calls that a stream gives up, in order: those that a delivery has left when one of
its calls throws. -/
def lostCalls (call : Call) (w : World) (stream : Ref)
    (moves : List (GuestMove w.channels.size)) : List Delivery :=
  ({} : Scene Value Value).dropped (turnsOn call w stream moves)

/-- What the stream owes has been handed over: every chunk to every data listener and the end to
every end listener unless the stream is errored, the error to every error listener when it is. A
call that has thrown counts. -/
def HandedOver (call : Call) (w : World) (stream : Ref)
    (moves : List (GuestMove w.channels.size)) : Prop :=
  ∀ held, ((opened w stream).after (code call w.channels.size stream) moves).state.channels[
      w.channels.size]? = some held →
    ∀ d, held.ledger.Owes d → d ∈ (madeCalls call w stream moves).map (·.delivery)

/-- The last operation of the guest delivers, and no listener of the stream is running any more. -/
structure DeliveryOver (call : Call) (w : World) (stream : Ref)
    (moves : List (GuestMove w.channels.size)) : Prop where
  last : ∃ before u replies, moves = before ++ .call (.use u) :: replies ∧ u.Delivers ∧
    ∀ deed, .call deed ∉ replies
  resting : Resting ((opened w stream).after (code call w.channels.size stream) moves)

/-- After a delivery nothing is due. -/
theorem DeliveryOver.nothing_due {w : World} {moves : List (GuestMove w.channels.size)}
    (h : DeliveryOver call w stream moves) :
    (({} : Scene Value Value).after (turnsOn call w stream moves)).channel.due = [] := by
  obtain ⟨before, u, replies, rfl, hu, hreplies⟩ := h.last
  rw [turnsOn, turns_append, Scene.after_append, turns, Scene.after_append,
    after_replies_channel _ hreplies]
  exact (congrArg Channel.due (Scene.step_channel _ (.use u))).trans (hu.after_due _)

/-- **Loss.** When an operation that delivers is over, after any moves of the guest, a call that is
owed has been made unless it was given up. What was given up is never made up for, and while no
listener throws nothing is given up. -/
theorem handed_over_iff (call : Call) (w : World) (stream : Ref)
    (moves : List (GuestMove w.channels.size)) (hover : DeliveryOver call w stream moves) :
    Agrees (madeCalls call w stream moves)
      ((opened w stream).events (code call w.channels.size stream) moves) ∧
    ∃ held, ((opened w stream).after (code call w.channels.size stream) moves).state.channels[
        w.channels.size]? = some held ∧
      held.InStep ∧
      held.chunks =
        pushedChunks ((opened w stream).events (code call w.channels.size stream) moves) ∧
      (∀ event, held.listeners event = registered event
        ((opened w stream).events (code call w.channels.size stream) moves)) ∧
      (∀ d, held.ledger.Owes d →
        (d ∈ (madeCalls call w stream moves).map (·.delivery) ↔
          d ∉ lostCalls call w stream moves)) ∧
      (HandedOver call w stream moves ↔
        ∀ d ∈ lostCalls call w stream moves, ¬ held.ledger.Owes d) ∧
      (∀ d ∈ lostCalls call w stream moves, ∀ later,
        d ∉ (madeCalls call w stream (moves ++ later)).map (·.delivery)) ∧
      ((∀ e, .answer (.error e) ∉ moves) → lostCalls call w stream moves = []) := by
  obtain ⟨hfollows, hagrees⟩ := (follows_opened call w stream).after moves
  have hleft :=
    ((follows_opened call w stream).after_consumersDone .nil moves).nothing_left hover.resting
  have hkept : ∀ d, (({} : Scene Value Value).after
      (turnsOn call w stream moves)).channel.ledger.Owes d →
      (d ∈ (madeCalls call w stream moves).map (·.delivery) ↔
        d ∉ lostCalls call w stream moves) :=
    fun d => Scene.made_iff_kept hover.nothing_due hleft
  have hhanded : HandedOver call w stream moves ↔ ∀ d ∈ lostCalls call w stream moves,
      ¬ (({} : Scene Value Value).after (turnsOn call w stream moves)).channel.ledger.Owes d := by
    constructor
    · intro hall d hd howed
      exact (hkept d howed).mp (hall _ hfollows.held d howed) hd
    · intro hall held hheld d howed
      obtain rfl := Option.some.inj (hfollows.held.symm.trans hheld)
      exact (hkept d howed).mpr fun hd => hall d hd howed
  have hnever : ∀ d ∈ lostCalls call w stream moves, ∀ later,
      d ∉ (madeCalls call w stream (moves ++ later)).map (·.delivery) := by
    intro d hd later
    rw [madeCalls, turnsOn, turns_append]
    exact Scene.dropped_not_made hd _
  exact ⟨hagrees, _, hfollows.held, hfollows.sound.inStep, held_chunks call w stream moves,
    held_listeners call w stream moves, hkept, hhanded, hnever,
    fun hreturn => Scene.dropped_of_returns (turns_return hreturn)⟩

/-! ## A listener that misses its chunk -/

/-- A world with one object and three functions that listen. -/
def throwingWorld : World where
  heap := #[⟨.plain, none, []⟩, functionObject "first" .idle [], functionObject "second" .idle [],
    functionObject "last" .idle []]
  surroundings := bareSurroundings

/-- Two data listeners share a chunk, and the first one throws. Then the stream is ended, and the
end listener returns. -/
def throwingMoves : List (GuestMove throwingWorld.channels.size) :=
  [.call (.use (.listen .data (.object 1))), .call (.use (.listen .data (.object 2))),
    .call (.use (.push (.text "chunk"))), .call (.use (.listen .end (.object 3))),
    .answer (.error (.thrown (.text "boom"))), .call (.use .finish), .answer (.ok ())]

/-- What happened last is that an operation came to its end without an exception. -/
def endsWell (events : List StreamEvent) : Bool :=
  match events.getLast? with
  | some (.ended (.ok _)) => true
  | _ => false

/-- The last operation is over without an exception, and the second data listener has no chunk. -/
theorem throw_loses :
    listenerCalls ((opened throwingWorld 0).events (code idleCall throwingWorld.channels.size 0)
        throwingMoves) = [(.object 1, .data (.text "chunk")), (.object 3, .end)] ∧
    endsWell ((opened throwingWorld 0).events (code idleCall throwingWorld.channels.size 0)
        throwingMoves) = true ∧
    ((opened throwingWorld 0).after (code idleCall throwingWorld.channels.size 0)
        throwingMoves).frames = [] ∧
    ¬ HandedOver idleCall throwingWorld 0 throwingMoves := by
  refine ⟨by decide +kernel, by decide +kernel, List.isEmpty_iff.mp (by decide +kernel), ?_⟩
  intro hall
  obtain ⟨hfollows, -⟩ := (follows_opened idleCall throwingWorld 0).after throwingMoves
  have howed : (({} : Scene Value Value).after
      (turnsOn idleCall throwingWorld 0 throwingMoves)).channel.ledger.Owes (.data 1 0) :=
    ⟨by decide +kernel, by decide +kernel, by decide +kernel⟩
  have hmade := hall _ hfollows.held _ howed
  revert hmade
  decide +kernel

/-- Given up is the call of the second listener, which is owed; so not all has been handed over. -/
theorem handed_over_throwing :
    DeliveryOver idleCall throwingWorld 0 throwingMoves ∧
    lostCalls idleCall throwingWorld 0 throwingMoves = [.data 1 0] ∧
    ¬ HandedOver idleCall throwingWorld 0 throwingMoves := by
  have hover : DeliveryOver idleCall throwingWorld 0 throwingMoves := by
    refine ⟨⟨throwingMoves.take 5, .finish, [.answer (.ok ())], rfl, trivial, by simp⟩, ?_⟩
    have hidle : ((opened throwingWorld 0).after (code idleCall throwingWorld.channels.size 0)
        throwingMoves).frames = [] := List.isEmpty_iff.mp (by decide +kernel)
    simp [Resting, Conf.questions, hidle]
  have hlost : lostCalls idleCall throwingWorld 0 throwingMoves = [.data 1 0] := by decide +kernel
  obtain ⟨-, held, hheld, -, -, -, -, hiff, -, -⟩ :=
    handed_over_iff idleCall throwingWorld 0 throwingMoves hover
  refine ⟨hover, hlost, fun hall => ?_⟩
  have hnot := hiff.mp hall (.data 1 0) (by simp [hlost])
  obtain ⟨hfollows, -⟩ := (follows_opened idleCall throwingWorld 0).after throwingMoves
  obtain rfl := Option.some.inj (hfollows.held.symm.trans hheld)
  exact hnot ⟨by decide +kernel, by decide +kernel, by decide +kernel⟩

end GuestLint.Builtin
