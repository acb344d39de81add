import GuestLint.Stream.Ledger
/-!
# Channels

A channel is a stream as its users see it: chunks are buffered, listeners are registered, and each
delivery calls the listeners that are due. Listeners are foreign code. They may use the channel
again while they run, and they may fail, so the operations are written for any monad, over a
`Seat` that says how the channel is kept and how a listener is called.

* `deliver` marks the calls that are due as made before it makes the first of them.
* A failing acknowledgement of a write puts the channel into the errored state and records why.
-/
namespace GuestLint.Stream

/-- What a listener can wait for. -/
inductive Event where
  | data
  | error
  | «end»
  deriving Repr, DecidableEq

/-- The event of a name. -/
def Event.ofName? (name : String) : Option Event :=
  if name = "data" then some .data
  else if name = "error" then some .error
  else if name = "end" then some .end
  else none

/-- The events that can be waited for once. -/
def Event.ofOnceName? (name : String) : Option Event :=
  if name = "error" then some .error
  else if name = "end" then some .end
  else none

/-- A channel of chunks of type `V` with listeners of type `L`. -/
structure Channel (V L : Type) where
  ledger : Ledger := {}
  chunks : List V := []
  dataListeners : List L := []
  errorListeners : List L := []
  endListeners : List L := []
  /-- Why the channel is errored. -/
  reason : Option V := none
  deriving Repr

/-- A call that a listener gets. -/
inductive Notice (V : Type) where
  | data (chunk : V)
  | error (reason : Option V)
  | «end»
  deriving Repr, DecidableEq

namespace Channel

variable {V L : Type}

def push (c : Channel V L) (chunk : V) : Channel V L :=
  { c with ledger := c.ledger.push.2, chunks := c.chunks ++ [chunk] }

/-- Registers a listener for an event. -/
def add (c : Channel V L) (event : Event) (listener : L) : Channel V L :=
  match event with
  | .data =>
    { c with ledger := c.ledger.addData.2, dataListeners := c.dataListeners ++ [listener] }
  | .error =>
    { c with ledger := c.ledger.addError.2, errorListeners := c.errorListeners ++ [listener] }
  | .end => { c with ledger := c.ledger.addEnd.2, endListeners := c.endListeners ++ [listener] }

def finish (c : Channel V L) : Channel V L :=
  { c with ledger := c.ledger.finish }

/-- Marks the channel errored, unless it has ended. A later failure replaces the reason. -/
def fail (c : Channel V L) (reason : V) : Channel V L :=
  let (failed, ledger) := c.ledger.fail
  if failed then { c with ledger := ledger, reason := some reason } else c

/-- The listener and the notice that a delivery stands for. -/
def notice? (c : Channel V L) : Delivery → Option (L × Notice V)
  | .data listener chunk => do
    pure (← c.dataListeners[listener]?, .data (← c.chunks[chunk]?))
  | .error listener => do pure (← c.errorListeners[listener]?, .error c.reason)
  | .end listener => do pure (← c.endListeners[listener]?, .end)

end Channel

/-- How a channel is kept, and how its listeners are called. -/
structure Seat (m : Type → Type) (V L : Type) where
  load : m (Channel V L)
  store : Channel V L → m Unit
  notify : L → Notice V → m Unit

namespace Seat

variable {m : Type → Type} [Monad m] {V L : Type} (seat : Seat m V L)

def modify (f : Channel V L → Channel V L) : m Unit := do
  seat.store (f (← seat.load))

/-- Makes one listener call. The reason of an error is read when the call is made. -/
def carryOut (delivery : Delivery) : m Unit := do
  match (← seat.load).notice? delivery with
  | some (listener, notice) => seat.notify listener notice
  | none => pure ()

/-- Makes listener calls in order. -/
def carryOutAll : List Delivery → m Unit
  | [] => pure ()
  | delivery :: rest => do
    seat.carryOut delivery
    carryOutAll rest

/-- Marks all calls that are due as made, then makes them. -/
def deliver : m Unit := do
  let c ← seat.load
  let (plan, ledger) := c.ledger.deliver
  seat.store { c with ledger := ledger }
  seat.carryOutAll plan

/-- Buffers a chunk; nothing is delivered. -/
def push (chunk : V) : m Unit :=
  seat.modify (·.push chunk)

/-- Registers a listener and delivers what is due. -/
def listen (event : Event) (listener : L) : m Unit := do
  seat.modify (·.add event listener)
  seat.deliver

/-- Ends the channel and delivers what is due. -/
def finish : m Unit := do
  seat.modify (·.finish)
  seat.deliver

/-- What the consumer of a write answers: with a reason the write has failed. -/
def acknowledge (reason : Option V) : m Unit := do
  match reason with
  | some e => seat.modify (·.fail e)
  | none => pure ()
  seat.deliver

end Seat
end GuestLint.Stream
