import GuestLint.Proofs.Builtin.Streams
import GuestLint.Proofs.Stream.Order

/-!
# The order of chunks on guest streams

A data listener is to get the chunks of its stream in the order in which they were pushed. A
delivery marks its whole plan as made before it makes the first call, so a listener that pushes a
chunk and sets off another delivery gets the new chunk, and hands it to the other listeners, before
the first delivery goes on with the older ones.

* `madeCalls`: the calls of a run, each with the indices of its listener and its chunk.
* `chunk_order_iff`: for every run of a guest on a new stream, which listeners get their chunks in
  order.
* `order_overtaken`: a listener that gets its third chunk before its second.
-/
namespace GuestLint.Builtin

open Guest
open GuestLint.Stream (Scene Turn Made Delivery Channel)

variable {call : Call} {channel : Nat} {stream : Ref}

/-- A stream in use, as the turns of its scene. -/
def turnsOn (call : Call) (w : World) (stream : Ref) (moves : List (GuestMove w.channels.size)) :
    List (Turn Value Value) :=
  turns call w.channels.size stream (opened w stream) moves

/-- The calls of listeners in a run on a new stream, in order. -/
def madeCalls (call : Call) (w : World) (stream : Ref)
    (moves : List (GuestMove w.channels.size)) : List (Made Value Value) :=
  ({} : Scene Value Value).calls (turnsOn call w stream moves)

/-- The chunk indices that a data listener of a new stream is called with, in order. -/
def chunksGiven (call : Call) (w : World) (stream : Ref)
    (moves : List (GuestMove w.channels.size)) (listener : Nat) : List Nat :=
  ({} : Scene Value Value).given listener (turnsOn call w stream moves)

theorem GoesOnWith.waiting_eq_nil {c : StreamConf} {plans : List (List Delivery)}
    (h : GoesOnWith call channel stream c plans) (hc : c.frames = []) : plans = [] := by
  simpa [GoesOnWith, hc] using h

/-- The scene of a guest whose functions never throw has no calls that do. -/
theorem turns_return {c : StreamConf} {moves : List (GuestMove channel)}
    (hmoves : ∀ e, .answer (.error e) ∉ moves) :
    .reply false ∉ turns call channel stream c moves := by
  induction moves generalizing c with
  | nil => exact List.not_mem_nil
  | cons m moves ih =>
    have hlater : ∀ e, .answer (.error e) ∉ moves := fun e he =>
      hmoves e (List.mem_cons_of_mem m he)
    rw [turns, List.mem_append]
    refine not_or.mpr ⟨fun hm => ?_, ih hlater⟩
    cases m with
    | call a =>
      cases a with
      | use u => simp [turnsOf] at hm
      | write chunk =>
        simp only [turnsOf] at hm
        split at hm <;> simp at hm
    | answer r =>
      cases r with
      | ok a => simp [turnsOf] at hm
      | error e => exact hmoves e List.mem_cons_self
    | between f spares => simp [turnsOf] at hm

/-- **Order.** In every run of a guest on a new stream, each listener call hands over what the
stream has under the indices of the call. A data listener gets its chunks in ascending order
unless, at some moment, the stream sets out to give it newer chunks while a delivery under way has
older ones left for it. When it is so overtaken, and no throw takes chunks off its agenda (as when
nothing throws at all), the order is lost by the time at which all calls have returned. -/
theorem chunk_order_iff (call : Call) (w : World) (stream : Ref)
    (moves : List (GuestMove w.channels.size)) :
    Agrees (madeCalls call w stream moves)
      ((opened w stream).events (code call w.channels.size stream) moves) ∧
    (∃ held, ((opened w stream).after (code call w.channels.size stream) moves).state.channels[
        w.channels.size]? = some held ∧
      ∀ made ∈ madeCalls call w stream moves, ∃ told, made.told = some told ∧
        Scene.Tells held made.delivery told) ∧
    ∀ listener,
      (¬ ({} : Scene Value Value).Overtaken listener (turnsOn call w stream moves) →
        (chunksGiven call w stream moves listener).Pairwise (· < ·)) ∧
      ((∀ e, .answer (.error e) ∉ moves) →
        ({} : Scene Value Value).Intact listener (turnsOn call w stream moves)) ∧
      (({} : Scene Value Value).Intact listener (turnsOn call w stream moves) →
        ((opened w stream).after (code call w.channels.size stream) moves).frames = [] →
        ((chunksGiven call w stream moves listener).Pairwise (· < ·) ↔
          ¬ ({} : Scene Value Value).Overtaken listener (turnsOn call w stream moves))) := by
  obtain ⟨hfollows, hagrees⟩ := (follows_opened call w stream).after moves
  have hordered : ∀ listener,
      ¬ ({} : Scene Value Value).Overtaken listener (turnsOn call w stream moves) →
        (chunksGiven call w stream moves listener).Pairwise (· < ·) := by
    intro listener hover
    exact Scene.aligned_new.given_ascend List.Pairwise.nil hover
  refine ⟨hagrees, ⟨_, hfollows.held, Scene.sound_new.calls_tell _⟩, fun listener => ?_⟩
  refine ⟨hordered listener, fun hmoves => Scene.intact_of_returns (turns_return hmoves) listener,
    fun hintact hdone => ⟨fun hasc hover => ?_, hordered listener⟩⟩
  have hwaiting := hfollows.frames.waiting_eq_nil hdone
  exact Scene.aligned_new.overtaken_disorder hintact hwaiting hover hasc

/-! ## A listener that is overtaken by its own stream -/

/-- A world with one object, and a function that listens. -/
def listenerWorld : World where
  heap := #[⟨.plain, none, []⟩, functionObject "reader" .idle []]
  surroundings := bareSurroundings

/-- Two chunks wait for one listener. While it is called with the first, it pushes a third chunk
and registers another listener, which delivers what is due. Then all calls return. -/
def overtakingMoves : List (GuestMove listenerWorld.channels.size) :=
  [.call (.use (.listen .data (.object 1))), .call (.use (.push (.text "first"))),
    .call (.use (.push (.text "second"))), .call (.use (.listen .error (.text "trigger"))),
    .call (.use (.push (.text "third"))), .call (.use (.listen .end (.text "last"))),
    .answer (.ok ()), .answer (.ok ()), .answer (.ok ())]

/-- The third chunk is handed over before the second, and no call throws. -/
theorem order_overtaken :
    listenerCalls ((opened listenerWorld 0).events
        (code idleCall listenerWorld.channels.size 0) overtakingMoves) =
      [(.object 1, .data (.text "first")), (.object 1, .data (.text "third")),
        (.object 1, .data (.text "second"))] ∧
    (∀ e, .answer (.error e) ∉ overtakingMoves) ∧
    ¬ (chunksGiven idleCall listenerWorld 0 overtakingMoves 0).Pairwise (· < ·) := by
  refine ⟨by decide +kernel, ?_, by decide +kernel⟩
  simp [overtakingMoves]

/-- No chunk is taken off the agenda and all calls have returned, so the listener is overtaken. -/
theorem chunk_order_overtaking :
    (∀ e, .answer (.error e) ∉ overtakingMoves) ∧
    ((opened listenerWorld 0).after
      (code idleCall listenerWorld.channels.size 0) overtakingMoves).frames = [] ∧
    ({} : Scene Value Value).Overtaken 0 (turnsOn idleCall listenerWorld 0 overtakingMoves) := by
  have hreturns : ∀ e, .answer (.error e) ∉ overtakingMoves := by simp [overtakingMoves]
  have hdone : ((opened listenerWorld 0).after
      (code idleCall listenerWorld.channels.size 0) overtakingMoves).frames = [] :=
    List.isEmpty_iff.mp (by decide +kernel)
  obtain ⟨-, -, hlistener⟩ := chunk_order_iff idleCall listenerWorld 0 overtakingMoves
  obtain ⟨-, hintact, hexact⟩ := hlistener 0
  refine ⟨hreturns, hdone, Classical.not_not.mp fun hover => ?_⟩
  have hasc := (hexact (hintact hreturns) hdone).mpr hover
  revert hasc
  decide +kernel

end GuestLint.Builtin
