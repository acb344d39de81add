import GuestLint.Guest.Convert
/-!
# Streams for guests

The builtin module `stream`: each `PassThrough` object has a channel of its own, and methods that
work on it. Listeners and consumers are guest functions, which are called with the stream as their
receiver.
-/
namespace GuestLint.Builtin

open Guest
open GuestLint.Stream (Channel Notice Seat Event)

variable (call : Call)

/-- The property that shows what a stream holds. -/
def stateProperty : String := "_passThroughState"

/-- The lists that the state of a stream shows. -/
def shownLists (c : Channel Value Value) : List (String × List Value) :=
  [("chunks", c.chunks), ("data", c.dataListeners), ("error", c.errorListeners),
    ("end", c.endListeners)]

/-- Shows a channel in the state object of its stream. -/
def showChannel (stream : Ref) (c : Channel Value Value) : Machine Unit := do
  match (← heap).own? stream stateProperty with
  | some (.object state) =>
    for (name, items) in shownLists c do
      match (← heap).own? state name with
      | some (.object r) => modifyObject r fun o => { o with kind := .list items }
      | _ => pure ()
    match c.reason with
    | some reason => assign state "reason" reason
    | none => pure ()
  | _ => pure ()

/-- The arguments that a listener gets. -/
def noticeArgs : Notice Value → List Value
  | .data chunk => [chunk]
  | .error reason => [reason.getD .undefined]
  | .end => []

/-- The channel of a stream, kept in the world, with guest functions for listeners. -/
def seatOf (channel : Nat) (stream : Ref) : Seat Machine Value Value where
  load := do pure ((← get).channels[channel]?.getD {})
  store c := do
    modify fun w => { w with channels := w.channels.setIfInBounds channel c }
    showChannel stream c
  notify listener notice := do
    let _ ← call listener (.object stream) (noticeArgs notice)

/-- Makes an object a stream: it gets a channel, and the methods that work on it. -/
def openStream (stream : Ref) : Machine Unit := do
  let lists ← (shownLists {}).mapM fun (name, items) => do pure (name, ← makeList items)
  assign stream stateProperty (.object (← makeRecord lists))
  let channel := (← get).channels.size
  modify fun w => { w with channels := w.channels.push {} }
  let methods : List (String × StreamFunction) :=
    [("push", .push), ("on", .on), ("once", .once), ("write", .write), ("end", .end)]
  for (name, f) in methods do
    assign stream name (.object (← makeFunction name (.stream f channel)))

/-- Registers a listener under one of the events that a method knows. -/
def listen (seat : Seat Machine Value Value) (method : String) (event? : String → Option Event)
    (args : List Value) : Machine Unit := do
  requireArgs 2 args
  let name ← textArg (argAt args 0)
  let listener ← functionArg (argAt args 1)
  match event? name with
  | some event => seat.listen event listener
  | none =>
    raise "TypeError" ("PassThrough." ++ method ++ ": unsupported event '" ++ name ++ "'")

/-- Hands a chunk to the stream's consumer, with a callback for its answer. -/
def writeChunk (channel : Nat) (stream : Ref) (chunk : Value) : Machine Unit := do
  let consumer ← getProperty (.object stream) "_write"
  if consumer.isAbsent then raise "TypeError" "PassThrough.write: _write is not implemented"
  let consumer ← functionArg consumer
  let callback ← makeFunction "" (.stream (.acknowledge stream) channel)
  let _ ← call consumer (.object stream) [chunk, .text "utf8", .object callback]

def runStream (f : StreamFunction) (channel : Nat) (this : Value) (args : List Value) :
    Machine Value := do
  match f with
  | .readable => pure .undefined
  | .passThrough =>
    openStream (← objectArg this)
    pure .undefined
  | .acknowledge stream =>
    (seatOf call channel stream).acknowledge (args.head?.filter fun e => !e.isAbsent)
    pure .undefined
  | .push =>
    requireArgs 1 args
    let stream ← objectArg this
    (seatOf call channel stream).push (argAt args 0)
    pure (.boolean true)
  | .on =>
    let stream ← objectArg this
    listen (seatOf call channel stream) "on" Event.ofName? args
    pure this
  | .once =>
    let stream ← objectArg this
    listen (seatOf call channel stream) "once" Event.ofOnceName? args
    pure this
  | .write =>
    requireArgs 1 args
    let stream ← objectArg this
    writeChunk call channel stream (argAt args 0)
    pure (.boolean true)
  | .end =>
    let stream ← objectArg this
    (seatOf call channel stream).finish
    pure this

end GuestLint.Builtin
