/-!
# Delivery ledger of a stream

What a stream still owes to its listeners, as plain counts. Each data listener owns a cursor into
the buffered chunks and catches up from it on every delivery; error and end listeners fire at most
once; an errored stream calls its error listeners only.

* `deliver` computes the listener calls that are due and marks them as made.
-/
namespace GuestLint.Stream

/-- One listener call. -/
inductive Delivery where
  | data (listener chunk : Nat)
  | error (listener : Nat)
  | «end» (listener : Nat)
  deriving Repr, DecidableEq

structure Ledger where
  /-- How many chunks are buffered. -/
  chunks : Nat := 0
  /-- For each data listener, the first chunk that it has not been given. -/
  cursors : List Nat := []
  /-- For each error listener, whether it has been called. -/
  errorFired : List Bool := []
  /-- For each end listener, whether it has been called. -/
  endFired : List Bool := []
  ended : Bool := false
  errored : Bool := false
  deriving Repr, DecidableEq

namespace Ledger

/-- Buffers a chunk and gives its index. -/
def push (s : Ledger) : Nat × Ledger :=
  (s.chunks, { s with chunks := s.chunks + 1 })

/-- Adds a data listener that starts at the first chunk. -/
def addData (s : Ledger) : Nat × Ledger :=
  (s.cursors.length, { s with cursors := s.cursors ++ [0] })

def addError (s : Ledger) : Nat × Ledger :=
  (s.errorFired.length, { s with errorFired := s.errorFired ++ [false] })

def addEnd (s : Ledger) : Nat × Ledger :=
  (s.endFired.length, { s with endFired := s.endFired ++ [false] })

def finish (s : Ledger) : Ledger :=
  { s with ended := true }

/-- Marks the stream errored, unless it has ended. -/
def fail (s : Ledger) : Bool × Ledger :=
  if s.ended then (false, s) else (true, { s with errored := true })

/-- The indices, from `start` on, of the listeners that have not fired. -/
def unfired (start : Nat) : List Bool → List Nat
  | [] => []
  | fired :: rest => if fired then unfired (start + 1) rest else start :: unfired (start + 1) rest

/-- The chunks that each listener has yet to get, listener by listener. -/
def pendingData (chunks listener : Nat) : List Nat → List Delivery
  | [] => []
  | cursor :: rest =>
    (List.range' cursor (chunks - cursor)).map (Delivery.data listener) ++
      pendingData chunks (listener + 1) rest

/-- The listener calls that are due, with the ledger that counts them as made. -/
def deliver (s : Ledger) : List Delivery × Ledger :=
  if s.errored then
    ((unfired 0 s.errorFired).map .error, { s with errorFired := s.errorFired.map fun _ => true })
  else
    let data := pendingData s.chunks 0 s.cursors
    let s := { s with cursors := s.cursors.map fun _ => s.chunks }
    if s.ended then
      (data ++ (unfired 0 s.endFired).map .end, { s with endFired := s.endFired.map fun _ => true })
    else (data, s)

end Ledger
end GuestLint.Stream
