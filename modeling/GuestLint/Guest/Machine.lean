import GuestLint.Guest.World
/-!
# Running guests

A guest computation changes the world and ends in a value, in a thrown value, or in one of the two
ways a guest cannot catch: it never comes back, or the engine gives up.

Functions are called through a `Call` that each operation takes, so that what calls functions can
be defined before the functions are.
-/
namespace GuestLint.Guest

inductive Stop where
  | thrown (value : Value)
  /-- The guest never comes back. -/
  | endless
  /-- The engine gives up. -/
  | fault (message : String)

/-- A computation of a guest. The world that it has made stays, whatever its end. -/
abbrev Machine (α : Type) := ExceptT Stop (StateM World) α

/-- Calls a function with its receiver and its arguments. -/
abbrev Call := (f this : Value) → (args : List Value) → Machine Value

def run {α : Type} (w : World) (action : Machine α) : Except Stop α × World :=
  (ExceptT.run action).run w

def throwValue {α : Type} (v : Value) : Machine α :=
  throw (.thrown v)

/-- Never comes back. -/
def runForever {α : Type} : Machine α :=
  throw .endless

/-- Runs a handler when a value is thrown. -/
def rescue {α : Type} (action : Machine α) (handler : Value → Machine α) : Machine α :=
  tryCatch action fun
    | .thrown v => handler v
    | stop => throw stop

/-- The value that an action throws, or what it returns. -/
def attempt {α : Type} (action : Machine α) : Machine (Except Value α) :=
  rescue (.ok <$> action) fun v => pure (.error v)

/-! ## Objects -/

def heap : Machine Heap := do
  pure (← get).heap

def modifyHeap (f : Heap → Heap) : Machine Unit :=
  modify fun w => { w with heap := f w.heap }

def allocate (o : Object) : Machine Ref :=
  modifyGet fun w => (w.heap.size, { w with heap := w.heap.push o })

def modifyObject (r : Ref) (f : Object → Object) : Machine Unit :=
  modifyHeap (·.modify r f)

/-- Sets a property. One that the object has keeps its place and stays hidden when it was. -/
def assign (r : Ref) (name : String) (value : Value) : Machine Unit :=
  modifyObject r fun o =>
    let enumerable := ((o.properties.lookup name).map (·.enumerable)).getD true
    { o with properties := putProperty name ⟨value, enumerable⟩ o.properties }

/-- Sets a property that listings leave out. -/
def assignHidden (r : Ref) (name : String) (value : Value) : Machine Unit :=
  modifyObject r fun o => { o with properties := putProperty name ⟨value, false⟩ o.properties }

def deleteProperty (r : Ref) (name : String) : Machine Unit :=
  modifyObject r fun o => { o with properties := o.properties.filter (·.1 ≠ name) }

/-- A plain object with properties in order. -/
def makeRecord (fields : List (String × Value)) : Machine Ref := do
  let r ← allocate ⟨.plain, some Place.objectParent, []⟩
  for (name, value) in fields do
    assign r name value
  pure r

def makeList (items : List Value) : Machine Value :=
  .object <$> allocate ⟨.list items, some Place.listParent, []⟩

def makeFunction (name : String) (f : Function) : Machine Ref :=
  allocate (functionObject name f [])

/-- A function with an object that its instances inherit from. -/
def makeConstructor (name : String) (f : Function) (parent : Ref) : Machine Ref := do
  let r ← makeFunction name f
  assignHidden r "prototype" (.object parent)
  assignHidden parent "constructor" (.object r)
  pure r

/-- An object for the instances of a function to inherit from. -/
def makeParent : Machine Ref :=
  allocate ⟨.plain, some Place.objectParent, []⟩

/-! ## Errors -/

/-- The stack text of running code, the innermost place first. -/
def stackText (frames : List Frame) : String :=
  String.join <| frames.map fun f =>
    "    at " ++ f.function ++ " (" ++ f.file ++ ":" ++
      String.ofList (Text.digits 10 f.line) ++ ")\n"

def makeError (name message : String) : Machine Ref := do
  let stack := stackText (← get).frames
  allocate ⟨.error, some (Place.errorParent name),
    [hidden "message" (.text message), hidden "stack" (.text stack)]⟩

/-- Throws an error of a kind. -/
def raise {α : Type} (name message : String) : Machine α := do
  throwValue (.object (← makeError name message))

/-- Runs code at a place, so that its errors tell where they come from. -/
def atPlace {α : Type} (frame : Frame) (action : Machine α) : Machine α := do
  let frames := (← get).frames
  modify fun w => { w with frames := frame :: w.frames }
  let leave : Machine Unit := modify fun w => { w with frames := frames }
  let result ← tryCatch action fun stop => do
    leave
    throw stop
  leave
  pure result

/-! ## Properties of values -/

/-- A property of any value. Absent values have none, and to ask for one is an error. -/
def getProperty (v : Value) (name : String) : Machine Value := do
  match v with
  | .object r => pure (((← heap).find r name).getD .undefined)
  | .undefined => raise "TypeError" ("cannot read property '" ++ name ++ "' of undefined")
  | .null => raise "TypeError" ("cannot read property '" ++ name ++ "' of null")
  | .text s => pure (if name = "length" then .ofNat (Text.unitCount s.toList) else .undefined)
  | _ => pure .undefined

/-- Calls a method of a value. -/
def callMethod (call : Call) (v : Value) (name : String) (args : List Value) : Machine Value := do
  call (← getProperty v name) v args

/-! ## Logs and stored values -/

def log (level : LogLevel) (text : String) (stream : Option String) : Machine Unit :=
  modify fun w => { w with logs := w.logs.push ⟨level, text, stream⟩ }

/-- The result of a lookup, whose notes become warnings. -/
def lookedUp {α : Type} (answer : Virtual.Answer α) : Machine (Except Host.Failure α) := do
  for note in answer.notes do
    log .warn note.message none
  pure answer.result

def logCall (args : List Value) : Machine Unit :=
  modify fun w => { w with calls := w.calls.push args }

def noteText (text : String) : Machine Unit :=
  modify fun w => { w with notes := w.notes.push text }

/-- Counts a run, and answers how many there were before it. -/
def countRun (key : String) : Machine Nat := do
  let before := ((← get).runs.lookup key).getD 0
  modify fun w => { w with runs := (key, before + 1) :: w.runs.filter (·.1 ≠ key) }
  pure before

def storeValue (name : String) (v : Value) : Machine Unit :=
  modify fun w => { w with stored := (name, v) :: w.stored.filter (·.1 ≠ name) }

def storedValue (name : String) : Machine Value := do
  pure (((← get).stored.lookup name).getD .undefined)

end GuestLint.Guest
