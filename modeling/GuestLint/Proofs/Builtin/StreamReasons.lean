import GuestLint.Proofs.Builtin.StreamAccount
import GuestLint.Proofs.Stream.Reasons

/-!
# What error listeners of guest streams are told

A callback that reports a second failure replaces the reason of the first one. Error listeners that
have been called by then have the first reason, and an error listener that is registered later is
told the new one, though the stream has been errored all the time.

* `Follows.apart`: a stream that no listener uses is a scene whose channel is not used during a
  delivery.
* `errors_agree_iff`: which reason an error listener is told, and when all are told the first one.
* `errors_differ`: two listeners of one errored stream that are told different reasons.
-/
namespace GuestLint.Builtin

open Guest
open Dialogue (Conf)
open GuestLint.Stream (Notice Use Scene Turn Made failures)

variable {call : Call} {channel : Nat} {stream : Ref}

/-! ## Streams that no listener uses -/

/-- A move that does something to the channel. A write hands its chunk to the consumer only. -/
def usesChannel : GuestMove channel → Bool
  | .call (.use _) => true
  | _ => false

instance (c : StreamConf) : Decidable (Resting c) :=
  inferInstanceAs (Decidable (∀ q ∈ c.questions, q.isListener = false))

/-- Whenever the guest uses the channel, no listener of the stream is running. -/
def Apart (call : Call) (channel : Nat) (stream : Ref) (c : StreamConf) :
    List (GuestMove channel) → Prop
  | [] => True
  | m :: moves => (usesChannel m = true → Resting c) ∧
      Apart call channel stream (c.step (code call channel stream) m).1 moves

instance decidableApart (call : Call) (channel : Nat) (stream : Ref) : (c : StreamConf) →
    (moves : List (GuestMove channel)) → Decidable (Apart call channel stream c moves)
  | _, [] => isTrue trivial
  | c, m :: moves =>
    have := decidableApart call channel stream (c.step (code call channel stream) m).1 moves
    inferInstanceAs (Decidable (_ ∧ _))

/-- A move stands for one turn of the scene, or for none. -/
theorem turnsOf_toList (stream : Ref) (c : StreamConf) (m : GuestMove channel) :
    ∃ turn? : Option (Turn Value Value), turnsOf channel stream c m = turn?.toList := by
  cases m with
  | call deed =>
    cases deed with
    | use u => exact ⟨some (.use u), rfl⟩
    | write chunk =>
      simp only [turnsOf]
      split
      · exact ⟨some .wait, rfl⟩
      · exact ⟨none, rfl⟩
  | answer r =>
    cases r with
    | ok a => exact ⟨some (.reply true), rfl⟩
    | error e => exact ⟨some (.reply false), rfl⟩
  | between f spares => exact ⟨none, rfl⟩

/-- Between listeners no delivery has a call left. -/
theorem Follows.apart {s : Scene Value Value} {c : StreamConf}
    (h : Follows call channel stream s c) (hdone : ConsumersDone s c)
    {moves : List (GuestMove channel)} (hapart : Apart call channel stream c moves) :
    s.Apart (turns call channel stream c moves) := by
  induction moves generalizing s c with
  | nil => trivial
  | cons m moves ih =>
    obtain ⟨hnow, hlater⟩ := hapart
    have hrest := ih (h.step m).1 (h.step_consumersDone hdone m) hlater
    have huse : ∀ u, turnsOf channel stream c m = [.use u] → s.waiting.flatten = [] := by
      intro u hu
      refine hdone.nothing_left (hnow ?_)
      cases m with
      | call deed =>
        cases deed with
        | use u => rfl
        | write chunk => simp only [turnsOf] at hu; split at hu <;> cases hu
      | answer r => cases r <;> cases hu
      | between f spares => cases hu
    rw [turns]
    obtain ⟨turn?, hturn⟩ := turnsOf_toList stream c m
    rw [hturn] at hrest huse ⊢
    cases turn? with
    | none => exact hrest
    | some t => exact ⟨fun u hu => huse u (congrArg (fun t => [t]) hu), hrest⟩

/-! ## Which reason a listener is told -/

/-- All error listeners that are called are told why the first failing write has failed. -/
def OneReason (events : List StreamEvent) : Prop :=
  ∀ listener reason, (listener, .error reason) ∈ listenerCalls events →
    reason = (failures (usesIn events)).head?

theorem Agrees.mem_iff {calls : List (Made Value Value)} {events : List StreamEvent}
    (h : Agrees calls events) (told : Value × Notice Value) :
    told ∈ listenerCalls events ↔ ∃ made ∈ calls, made.told = some told := by
  rw [← List.mem_map, h]
  simp

/-- A call that a move makes tells the newest reason. -/
theorem Follows.step_told {s : Scene Value Value} {c : StreamConf} {us : List (Use Value Value)}
    (h : Follows call channel stream s c) (hs : s.Remembers us) (m : GuestMove channel)
    {listener : Value} {reason : Option Value}
    (hm : (listener, .error reason) ∈ listenerCalls (c.step (code call channel stream) m).2) :
    failures (us ++ usesIn (c.step (code call channel stream) m).2) ≠ [] ∧
      reason = (failures (us ++ usesIn (c.step (code call channel stream) m).2)).getLast? := by
  obtain ⟨made, hmade, htold⟩ := ((h.step m).2.mem_iff _).mp hm
  rw [← turnsOf_uses]
  obtain ⟨turn?, hturn⟩ := turnsOf_toList stream c m
  rw [hturn] at hmade ⊢
  cases turn? with
  | none => cases hmade
  | some t =>
    have hcall : made ∈ (s.step t).2 := by simpa [Scene.calls] using hmade
    have huses : [t].filterMap Turn.use? = t.use?.toList := by cases t <;> rfl
    rw [Option.toList_some, huses]
    exact (hs.step t).2 made hcall listener reason htold

/-- **Reason.** After any moves of the guest a stream is errored exactly when a callback has failed
before the end, and it keeps the reason of the newest failure. The next move tells an error listener
this reason. When no listener uses the stream, all error listeners that are called are told the
first reason if and only if none of them is registered after a failure that has brought another
one. -/
theorem errors_agree_iff (call : Call) (w : World) (stream : Ref)
    (moves : List (GuestMove w.channels.size)) :
    (∃ held, ((opened w stream).after (code call w.channels.size stream) moves).state.channels[
        w.channels.size]? = some held ∧
      (held.ledger.errored = true ↔ failures (usesIn
        ((opened w stream).events (code call w.channels.size stream) moves)) ≠ []) ∧
      held.reason = (failures (usesIn
        ((opened w stream).events (code call w.channels.size stream) moves))).getLast?) ∧
    (∀ (next : GuestMove w.channels.size) listener reason,
      (listener, .error reason) ∈ listenerCalls
        (((opened w stream).after (code call w.channels.size stream) moves).step
          (code call w.channels.size stream) next).2 →
      failures (usesIn
        ((opened w stream).events (code call w.channels.size stream) (moves ++ [next]))) ≠ [] ∧
      reason = (failures (usesIn
        ((opened w stream).events (code call w.channels.size stream)
          (moves ++ [next])))).getLast?) ∧
    (Apart call w.channels.size stream (opened w stream) moves →
      (OneReason ((opened w stream).events (code call w.channels.size stream) moves) ↔
        ∀ before listener later,
          usesIn ((opened w stream).events (code call w.channels.size stream) moves) =
            before ++ .listen .error listener :: later →
          (failures before).getLast? = (failures before).head?)) := by
  have hopened := follows_opened call w stream
  obtain ⟨hfollows, hagrees⟩ := hopened.after moves
  have hremembers := Scene.remembers_new.after (turns call w.channels.size stream (opened w stream)
    moves)
  rw [turns_uses, List.nil_append] at hremembers
  refine ⟨⟨_, hfollows.held, hremembers.channel.errored, hremembers.channel.reason⟩, ?_, ?_⟩
  · intro next listener reason hnext
    rw [Conf.events_append, usesIn_append]
    have htold := hfollows.step_told hremembers next hnext
    rwa [← List.append_nil (Conf.step _ _ next).2] at htold
  · intro hapart
    have hiff := Scene.told_first_iff (hopened.apart .nil hapart)
    rw [turns_uses] at hiff
    refine Iff.trans ⟨fun hall made hmade listener reason htold => ?_, fun hall => ?_⟩ hiff
    · exact hall listener reason ((hagrees.mem_iff _).mpr ⟨made, hmade, htold⟩)
    · intro listener reason hm
      obtain ⟨made, hmade, htold⟩ := (hagrees.mem_iff _).mp hm
      exact hall made hmade listener reason htold

/-! ## Listeners that are told different reasons -/

/-- A world with a stream that has a consumer, and two functions that listen. -/
def failingWorld : World where
  heap := #[⟨.plain, none, [("_write", ⟨.object 1, true⟩)]⟩, functionObject "consumer" .idle [],
    functionObject "early" .idle [], functionObject "late" .idle []]
  surroundings := bareSurroundings

/-- A listener is there when the consumer of a write reports a failure. -/
def failingMoves : List (GuestMove failingWorld.channels.size) :=
  [.call (.use (.listen .error (.object 2))), .call (.write (.text "chunk")),
    .call (.use (.acknowledge (some (.text "first")))), .answer (.ok ())]

/-- Both listeners are there before the second failure is reported, which calls nobody. -/
def settledMoves : List (GuestMove failingWorld.channels.size) :=
  failingMoves ++ [.answer (.ok ()), .call (.use (.listen .error (.object 3))), .answer (.ok ()),
    .call (.use (.acknowledge (some (.text "second"))))]

/-- All listeners are told the first reason of two, as none is registered after the second. -/
theorem errors_agree_iff_settled :
    Apart idleCall failingWorld.channels.size 0 (opened failingWorld 0) settledMoves ∧
    failures (usesIn ((opened failingWorld 0).events (code idleCall failingWorld.channels.size 0)
      settledMoves)) = [.text "first", .text "second"] ∧
    OneReason ((opened failingWorld 0).events (code idleCall failingWorld.channels.size 0)
      settledMoves) ∧
    ∀ before listener later,
      usesIn ((opened failingWorld 0).events (code idleCall failingWorld.channels.size 0)
        settledMoves) = before ++ .listen .error listener :: later →
      (failures before).getLast? = (failures before).head? := by
  have hapart : Apart idleCall failingWorld.channels.size 0 (opened failingWorld 0)
      settledMoves := by decide +kernel
  have hfailures : failures (usesIn ((opened failingWorld 0).events
      (code idleCall failingWorld.channels.size 0) settledMoves)) =
        [.text "first", .text "second"] := by decide +kernel
  have hcalls : listenerCalls ((opened failingWorld 0).events
      (code idleCall failingWorld.channels.size 0) settledMoves) =
        [(.object 2, .error (some (.text "first"))),
          (.object 3, .error (some (.text "first")))] := by decide +kernel
  have hone : OneReason ((opened failingWorld 0).events
      (code idleCall failingWorld.channels.size 0) settledMoves) := by
    intro listener reason hm
    rw [hcalls] at hm
    rw [hfailures]
    simp only [List.mem_cons, Prod.mk.injEq, Notice.error.injEq, List.not_mem_nil, or_false] at hm
    rcases hm with ⟨-, rfl⟩ | ⟨-, rfl⟩ <;> rfl
  exact ⟨hapart, hfailures, hone,
    ((errors_agree_iff idleCall failingWorld 0 settledMoves).2.2 hapart).mp hone⟩

/-- The consumer reports a second failure before the second listener is registered. -/
def replacedMoves : List (GuestMove failingWorld.channels.size) :=
  failingMoves ++ [.call (.use (.acknowledge (some (.text "second")))), .answer (.ok ()),
    .call (.use (.listen .error (.object 3))), .answer (.ok ())]

/-- No listener uses the stream, and the second listener is told the second reason. -/
theorem errors_differ :
    Apart idleCall failingWorld.channels.size 0 (opened failingWorld 0) replacedMoves ∧
    listenerCalls ((opened failingWorld 0).events (code idleCall failingWorld.channels.size 0)
        replacedMoves) =
      [(.object 2, .error (some (.text "first"))), (.object 3, .error (some (.text "second")))] ∧
    ¬ OneReason ((opened failingWorld 0).events (code idleCall failingWorld.channels.size 0)
        replacedMoves) := by
  have hcalls : listenerCalls ((opened failingWorld 0).events
      (code idleCall failingWorld.channels.size 0) replacedMoves) =
        [(.object 2, .error (some (.text "first"))),
          (.object 3, .error (some (.text "second")))] := by decide +kernel
  refine ⟨by decide +kernel, hcalls, fun hone => ?_⟩
  have hlate := hone (.object 3) (some (.text "second")) (by simp [hcalls])
  revert hlate
  decide +kernel

end GuestLint.Builtin
