import GuestLint.Proofs.Builtin.Streams

/-!
# Failing streams

A stream that has failed plans calls of error listeners only. A delivery that is under way when
the write fails does not notice: its plan was made before, and it goes through with it. So when a
listener makes a write fail, the data and end listeners that stand behind it in the plan are called
on the failed stream.

* `Follows.silenced_iff`: a failing stream falls silent exactly when no delivery under way has a
  data or end call left.
* `failure_silences_idle`: it falls silent when no call of the stream is waiting.
* `failure_silences_iff`: the exact condition, for every run of a guest on a new stream.
* `failure_overtaken`: a data listener that is called on a failed stream.
-/
namespace GuestLint.Builtin

open Guest
open GuestLint.Stream (Scene Turn Delivery)

variable {call : Call} {channel : Nat} {stream : Ref}

/-- Whether a failing write puts the channel into the errored state. -/
def canFail (channel : Nat) (w : World) : Bool :=
  (w.channels[channel]?.map (·.ledger.fail.1)).getD false

/-- A write fails, and from then on only error listeners are called, whatever the guest does. -/
def Silenced (call : Call) (channel : Nat) (stream : Ref) (c : StreamConf) (reason : Value) :
    Prop :=
  ∀ later : List (GuestMove channel), ∀ told ∈ listenerCalls
    (c.events (code call channel stream) (.call (.use (.acknowledge (some reason))) :: later)),
    told.2.isError = true

theorem turns_replies (c : StreamConf) (n : Nat) :
    turns call channel stream c (List.replicate n (.answer (.ok ()))) =
      List.replicate n (.reply true) := by
  induction n generalizing c with
  | zero => rfl
  | succ n ih => exact congrArg (Turn.reply true :: ·) (ih _)

/-- A failing stream falls silent if and only if no delivery under way has a call of a data or end
listener left. -/
theorem Follows.silenced_iff {s : Scene Value Value} {c : StreamConf}
    (h : Follows call channel stream s c) (hfail : canFail channel c.state = true)
    (reason : Value) :
    Silenced call channel stream c reason ↔
      ∀ plan ∈ s.waiting, ∀ d ∈ plan, ∃ l, d = .error l := by
  have hopen : s.channel.ledger.fail.1 = true := by simpa [canFail, h.held] using hfail
  let fail : GuestMove channel := .call (.use (.acknowledge (some reason)))
  constructor
  · -- when every call returns, whatever was left is called after the failure
    intro hsilent plan hp d hd
    obtain ⟨n, hn⟩ := Scene.calls_use_replies s (.acknowledge (some reason))
    obtain ⟨made, hm, rfl⟩ := hn plan hp d hd
    have hagree := (h.after (fail :: List.replicate n (.answer (.ok ())))).2
    have hturns : turns call channel stream c (fail :: List.replicate n (.answer (.ok ()))) =
        .use (.acknowledge (some reason)) :: List.replicate n (.reply true) :=
      congrArg (Turn.use _ :: ·) (turns_replies _ n)
    rw [hturns] at hagree
    exact hagree.isError_iff.mp (hsilent _) made hm
  · intro hw later
    have hagree := (h.after (fail :: later)).2
    exact hagree.isError_iff.mpr (Scene.OnlyErrors.fail hopen reason hw _)

/-- A write that fails while no call of the stream is waiting silences the stream. -/
theorem failure_silences_idle {s : Scene Value Value} {c : StreamConf}
    (h : Follows call channel stream s c) (hidle : c.frames = [])
    (hfail : canFail channel c.state = true) (reason : Value) :
    Silenced call channel stream c reason := by
  refine (h.silenced_iff hfail reason).mpr ?_
  have hnone : s.waiting = [] := by simpa [GoesOnWith, hidle] using h.frames
  simp [hnone]

/-- **Failure.** A write fails on a stream after any moves of the guest. Every call that waits at
that moment goes on with a plan of its own, and the stream falls silent but for its error listeners
if and only if these plans have calls of error listeners left only. -/
theorem failure_silences_iff (call : Call) (w : World) (stream : Ref)
    (moves : List (GuestMove w.channels.size)) (reason : Value)
    (hfail : canFail w.channels.size
      ((opened w stream).after (code call w.channels.size stream) moves).state = true) :
    ∃ plans,
      GoesOnWith call w.channels.size stream
        ((opened w stream).after (code call w.channels.size stream) moves) plans ∧
      (Silenced call w.channels.size stream
          ((opened w stream).after (code call w.channels.size stream) moves) reason ↔
        ∀ plan ∈ plans, ∀ d ∈ plan, ∃ l, d = .error l) := by
  have h := ((follows_opened call w stream).after moves).1
  exact ⟨_, h.frames, h.silenced_iff hfail reason⟩

/-! ## A listener that is called on a failed stream -/

/-- A world with one object, which has a consumer for its writes. -/
def loneWorld : World where
  heap := #[⟨.plain, none, [("_write", ⟨.object 1, true⟩)]⟩, functionObject "consumer" .idle []]
  surroundings := bareSurroundings

/-- Two data listeners share a chunk. While the first is called, it writes, and the consumer is
about to answer. -/
def overtakenMoves : List (GuestMove loneWorld.channels.size) :=
  [.call (.use (.listen .data (.text "first"))), .call (.use (.listen .data (.text "second"))),
    .call (.use (.push (.text "chunk"))), .call (.use (.listen .end (.text "last"))),
    .call (.write (.text "written"))]

/-- The second listener gets its chunk although the write has failed. -/
theorem failure_overtaken :
    canFail loneWorld.channels.size ((opened loneWorld 0).after
      (code idleCall loneWorld.channels.size 0) overtakenMoves).state = true ∧
    ¬ Silenced idleCall loneWorld.channels.size 0 ((opened loneWorld 0).after
      (code idleCall loneWorld.channels.size 0) overtakenMoves) (.text "broken") := by
  refine ⟨by decide +kernel, fun h => ?_⟩
  have hsecond := h [.answer (.ok ()), .answer (.ok ())]
  revert hsecond
  decide +kernel

theorem failure_silences_iff_overtaken :
    canFail loneWorld.channels.size ((opened loneWorld 0).after
      (code idleCall loneWorld.channels.size 0) overtakenMoves).state = true ∧
    ∃ plans,
      GoesOnWith idleCall loneWorld.channels.size 0 ((opened loneWorld 0).after
        (code idleCall loneWorld.channels.size 0) overtakenMoves) plans ∧
      (Silenced idleCall loneWorld.channels.size 0
          ((opened loneWorld 0).after (code idleCall loneWorld.channels.size 0) overtakenMoves)
          (.text "broken") ↔
        ∀ plan ∈ plans, ∀ d ∈ plan, ∃ l, d = .error l) :=
  have hfail : canFail loneWorld.channels.size ((opened loneWorld 0).after
      (code idleCall loneWorld.channels.size 0) overtakenMoves).state = true := by decide +kernel
  ⟨hfail, failure_silences_iff idleCall loneWorld 0 overtakenMoves (.text "broken") hfail⟩

end GuestLint.Builtin
