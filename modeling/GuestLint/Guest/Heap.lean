import GuestLint.Guest.Value
import GuestLint.Guest.Program
import GuestLint.Virtual.Resolution
/-!
# The guest heap

Objects with their properties. A function is an object whose behaviour is named by a value of
`Function`, so that the heap holds data only and every function that a guest can meet is listed
here. An object inherits the properties of its parent.

* `ownNames`: the names of an object's properties in the order in which guests see them.
* `Heap.find`: a property, looked up along the parents.
-/
namespace GuestLint.Guest

/-! ## Functions -/

inductive LogLevel where
  | trace
  | debug
  | info
  | warn
  | error
  deriving Repr, DecidableEq

def LogLevel.name : LogLevel → String
  | trace => "TRACE"
  | debug => "DEBUG"
  | info => "INFO"
  | warn => "WARN"
  | error => "ERROR"

inductive PathFunction where
  | dirname | basename | extname | resolve | join | normalize | relative | isAbsolute
  deriving Repr, DecidableEq

inductive UtilFunction where
  | format | inspect | inherits | deprecate | promisify
  deriving Repr, DecidableEq

inductive FileFunction where
  | stat | statSync | lstat | lstatSync | readFile | readFileSync | existsSync
  /-- `readFile` that answers with a promise. -/
  | readFilePromise
  | realpath | realpathNative
  deriving Repr, DecidableEq

inductive UrlFunction where
  | construct | href | fileURLToPath | pathToFileURL
  deriving Repr, DecidableEq

inductive BufferFunction where
  | construct | «from» | alloc | allocUnsafe | isBuffer | isEncoding | byteLength | concat
  | toString | toJSON | equals | write
  deriving Repr, DecidableEq

inductive StreamFunction where
  | passThrough | readable | push | on | once | write | «end»
  /-- What a consumer calls when it is done with a write. -/
  | acknowledge (stream : Ref)
  deriving Repr, DecidableEq

inductive ProcessFunction where
  | on | cwd
  | write (stream : String)
  | nextTick | emitWarning
  deriving Repr, DecidableEq

inductive SystemFunction where
  | platform | arch | type | cpus | tmpdir | homedir | isatty
  deriving Repr, DecidableEq

inductive EmitterFunction where
  | construct
  /-- Ignores its arguments and answers the emitter. -/
  | chain
  | emit | listenerCount
  deriving Repr, DecidableEq

/-- What the language itself provides. -/
inductive Intrinsic where
  | objectText | objectValue | functionText | errorText | listText | listJoin
  | promiseThen | promiseCatch
  /-- The constructor of a kind of error. -/
  | makeError (name : String)
  deriving Repr, DecidableEq

inductive Function where
  | intrinsic (f : Intrinsic)
  | path (f : PathFunction)
  | util (f : UtilFunction)
  | file (f : FileFunction) (files : Virtual.Resolution)
  | url (f : UrlFunction)
  | buffer (f : BufferFunction)
  | stream (f : StreamFunction) (channel : Nat)
  | process (f : ProcessFunction) (workingDirectory : String)
  | system (f : SystemFunction)
  | emitter (f : EmitterFunction)
  | console (level : LogLevel)
  | require
  | createRequire
  /-- A function in callback style that answers with a promise instead. -/
  | promisified (wrapped : Value)
  /-- Settles a promise with what a callback is given. -/
  | promisedResult (promise : Ref)
  /-- Settles a promise in one of its rounds; see `PromiseState`. -/
  | settle (promise : Ref) (round : Nat) (fulfils : Bool)
  /-- Answers the same at every call. -/
  | answer (value : Bool)
  | idle
  | probe (label : String) (failure : Option String)
  | callbackStyle (error value : Value) (times : Nat)
  | unprintable (message : String)
  /-- A listener that logs its calls, with the number under which its runs are counted. -/
  | follower (counter : Nat) (label : String) (times : Nat) (steps : List StreamStep)
      (failure : Option String)
  /-- Consumes the writes of the stream that was stored under a name. -/
  | consumer (stream : String) (steps : List StreamStep)
  | formatter (formatter : Formatter)
  /-- Resolves a promise with the results of a bundle, formatted by the bundle. -/
  | formatResults (bundle : Value) (promise : Ref)
  /-- Checks the documents once the ruleset at a path is there; files are read by a module's
  functions. -/
  | sampleChecks (rulesetPath workingDirectory : String) (files : Value)

/-- Whether a function can be used as a constructor. -/
def Function.isConstructor : Function → Bool
  | .intrinsic (.makeError _) | .url .construct | .url .pathToFileURL | .buffer .construct
  | .stream .passThrough _ | .stream .readable _ | .stream (.acknowledge _) _
  | .process .nextTick _ | .emitter .construct | .util .promisify | .promisified _ | .require
  | .createRequire | .idle => true
  | _ => false

/-! ## Objects -/

structure Property where
  value : Value
  enumerable : Bool := true

/-- What follows when a promise settles: a handler for either outcome, and the promise that takes
the handler's result. -/
structure Reaction where
  onFulfilled : Value
  onRejected : Value
  derived : Ref

/-- A pending promise counts the rounds in which it has been bound to another promise; a settling
function is good for one round only. -/
inductive PromiseState where
  | pending (round : Nat) (reactions : List Reaction)
  | fulfilled (value : Value)
  | rejected (reason : Value)

inductive ObjectKind where
  | plain
  | list (items : List Value)
  | error
  | function (f : Function)
  /-- A block of bytes. -/
  | byteStore (content : Bytes)
  /-- A view of some bytes of a block. -/
  | bytes (store : Ref) (offset length : Nat)
  | promise (state : PromiseState)

structure Object where
  kind : ObjectKind := .plain
  parent : Option Ref := none
  properties : List (String × Property) := []

/-- Puts a property in place of one of the same name, or behind all others. -/
def putProperty (name : String) (p : Property) : List (String × Property) → List (String × Property)
  | [] => [(name, p)]
  | (n, q) :: rest => if n = name then (name, p) :: rest else (n, q) :: putProperty name p rest

/-- Puts an index among ascending ones. -/
def insertIndex (i : Nat) : List Nat → List Nat
  | [] => [i]
  | j :: rest => if i < j then i :: j :: rest else j :: insertIndex i rest

/-- Property names in the order guests see them: list places first and ascending, then all others
in the order in which they were set. -/
def orderNames (names : List String) : List String :=
  let places := (names.filterMap indexOf?).foldl (fun sorted i => insertIndex i sorted) []
  places.map (fun i => String.ofList (Text.digits 10 i)) ++
    names.filter fun n => (indexOf? n).isNone

/-- The names of the enumerable properties of an object. -/
def Object.ownNames (o : Object) : List String :=
  let named := orderNames ((o.properties.filter (·.2.enumerable)).map (·.1))
  let places (n : Nat) := (List.range n).map fun i => String.ofList (Text.digits 10 i)
  match o.kind with
  | .list items => places items.length ++ named
  | .bytes _ _ length => places length ++ named
  | _ => named

/-! ## The heap -/

abbrev Heap := Array Object

namespace Heap

/-- The object at a place; a place without one holds an empty object. -/
def at_ (h : Heap) (r : Ref) : Object := h[r]?.getD {}

def modify (h : Heap) (r : Ref) (f : Object → Object) : Heap :=
  if r < h.size then h.set! r (f (h.at_ r)) else h

/-- The bytes that a view shows. -/
def bytesOf (h : Heap) (r : Ref) : Option Bytes :=
  match (h.at_ r).kind with
  | .bytes store offset length =>
    match (h.at_ store).kind with
    | .byteStore content => some ((content.drop offset).take length)
    | _ => some []
  | _ => none

/-- An object's own property. Lists, views and blocks of bytes have their lengths and their
elements as properties. -/
def own? (h : Heap) (r : Ref) (name : String) : Option Value :=
  let o := h.at_ r
  let computed : Option Value :=
    match o.kind with
    | .list items =>
      if name = "length" then some (.ofNat items.length)
      else (indexOf? name).bind fun i => items[i]?
    | .bytes store offset length =>
      if name = "length" ∨ name = "byteLength" then some (.ofNat length)
      else if name = "byteOffset" then some (.ofNat offset)
      else if name = "buffer" then some (.object store)
      else
        match indexOf? name, h.bytesOf r with
        | some i, some content => (content[i]?).map fun b => .ofNat b.toNat
        | _, _ => none
    | .byteStore content =>
      if name = "byteLength" then some (.ofNat content.length) else none
    | _ => none
  match computed with
  | some v => some v
  | none => (o.properties.lookup name).map (·.value)

/-- A property, looked up along at most `fuel` objects. -/
def findFrom (h : Heap) (name : String) : (fuel : Nat) → Ref → Option Value
  | 0, _ => none
  | fuel + 1, r =>
    match h.own? r name with
    | some v => some v
    | none =>
      match (h.at_ r).parent with
      | some p => findFrom h name fuel p
      | none => none

/-- A property of an object or of one of its ancestors. -/
def find (h : Heap) (r : Ref) (name : String) : Option Value :=
  h.findFrom name (h.size + 1) r

/-- Whether `ancestor` is among the parents of an object. -/
def descends (h : Heap) (ancestor : Ref) : (fuel : Nat) → Ref → Bool
  | 0, _ => false
  | fuel + 1, r =>
    match (h.at_ r).parent with
    | some p => p == ancestor || descends h ancestor fuel p
    | none => false

def function? (h : Heap) : Value → Option Function
  | .object r =>
    match (h.at_ r).kind with
    | .function f => some f
    | _ => none
  | _ => none

def isFunction (h : Heap) (v : Value) : Bool := (h.function? v).isSome

def list? (h : Heap) : Value → Option (List Value)
  | .object r =>
    match (h.at_ r).kind with
    | .list items => some items
    | _ => none
  | _ => none

/-- The word that a program sees for the type of a value. -/
def typeWord (h : Heap) (v : Value) : String :=
  if h.isFunction v then "function" else v.typeWord

/-- The word that conversion errors use for a value. -/
def kindWord (h : Heap) : Value → String
  | .object r =>
    match (h.at_ r).kind with
    | .list _ => "array"
    | .promise _ => "promise"
    | .function f => if f.isConstructor then "constructor" else "function"
    | .error => "exception"
    | _ => "object"
  | v => v.kindWord

end Heap
end GuestLint.Guest
