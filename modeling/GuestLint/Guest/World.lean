import GuestLint.Guest.Heap
import GuestLint.Stream.Channel
import GuestLint.Modules.Source
import GuestLint.Diagnostics.Captured
/-!
# The world of a guest

Everything that a running guest can change or observe: its heap, the jobs that wait to be run, the
modules it may require, its streams, and what it has logged.

The first objects of a heap are those that every guest starts with, at the places listed under
`Place`.
-/
namespace GuestLint.Guest

open Diagnostics (Sources)
open Virtual (Resolution)

/-! ## Where the first objects stand -/

namespace Place

def objectParent : Ref := 0
def functionParent : Ref := 1
def listParent : Ref := 2
def promiseParent : Ref := 3
def bytesParent : Ref := 4
def byteStoreParent : Ref := 5
def global : Ref := 6
def bufferParent : Ref := 7
def urlParent : Ref := 8
/-- The entries of loaded modules, by their identities. -/
def moduleCache : Ref := 9
def requireFunction : Ref := 10

/-- The kinds of errors, the general one first. -/
def errorNames : List String :=
  ["Error", "TypeError", "RangeError", "SyntaxError", "ReferenceError", "EvalError", "URIError",
    "InternalError"]

def firstError : Ref := 11

def errorParent (name : String) : Ref :=
  firstError + 2 * ((errorNames.idxOf? name).getD 0)

def errorConstructor (name : String) : Ref :=
  errorParent name + 1

/-- The functions that the first objects have, in order behind the errors. -/
def methods : List (Ref × String × Intrinsic) :=
  [(objectParent, "toString", .objectText), (objectParent, "valueOf", .objectValue),
    (functionParent, "toString", .functionText),
    (errorParent "Error", "toString", .errorText),
    (listParent, "toString", .listText), (listParent, "join", .listJoin),
    (bytesParent, "toString", .listText), (bytesParent, "join", .listJoin),
    (promiseParent, "then", .promiseThen), (promiseParent, "catch", .promiseCatch)]

def firstMethod : Ref := firstError + 2 * errorNames.length

end Place

/-! ## The first heap -/

/-- A property that listings leave out. -/
def hidden (name : String) (value : Value) : String × Property :=
  (name, ⟨value, false⟩)

def functionObject (name : String) (f : Function) (properties : List (String × Property)) :
    Object :=
  ⟨.function f, some Place.functionParent, hidden "name" (.text name) :: properties⟩

/-- The methods of one of the first objects. -/
def methodsOf (r : Ref) : List (String × Property) :=
  Place.methods.zipIdx.filterMap fun p =>
    if p.1.1 = r then some (hidden p.1.2.1 (.object (Place.firstMethod + p.2))) else none

def firstObject (r : Ref) (parent : Option Ref) : Object :=
  ⟨.plain, parent, methodsOf r⟩

/-- The parent of the errors of a kind, and their constructor. -/
def errorObjects (name : String) : List Object :=
  let parent := if name = "Error" then Place.objectParent else Place.errorParent "Error"
  [⟨.plain, some parent,
      [hidden "name" (.text name), hidden "message" (.text ""),
        hidden "constructor" (.object (Place.errorConstructor name))] ++
        methodsOf (Place.errorParent name)⟩,
    functionObject name (.intrinsic (.makeError name))
      [hidden "prototype" (.object (Place.errorParent name))]]

def firstHeap : Heap :=
  ([firstObject Place.objectParent none,
    firstObject Place.functionParent (some Place.objectParent),
    firstObject Place.listParent (some Place.objectParent),
    firstObject Place.promiseParent (some Place.objectParent),
    firstObject Place.bytesParent (some Place.objectParent),
    firstObject Place.byteStoreParent (some Place.objectParent),
    ⟨.plain, some Place.objectParent,
      hidden "globalThis" (.object Place.global) ::
        Place.errorNames.map fun n => hidden n (.object (Place.errorConstructor n))⟩,
    firstObject Place.bufferParent (some Place.bytesParent),
    firstObject Place.urlParent (some Place.objectParent),
    ⟨.plain, none, []⟩,
    functionObject "require" .require [("cache", ⟨.object Place.moduleCache, true⟩)]] ++
    Place.errorNames.flatMap errorObjects ++
    Place.methods.map fun p => functionObject p.2.1 (.intrinsic p.2.2) []).toArray

/-! ## Modules, jobs and logs -/

/-- The modules that come with the engine. -/
inductive Builtin where
  | util
  | stream
  | url
  | global
  | file (files : Resolution)
  | console
  | process (workingDirectory : String)
  | module
  | path
  | os
  | buffer
  | tty
  | events
  /-- A module that exports nothing. -/
  | empty
  deriving Repr, DecidableEq

/-- A module that is loaded without a source. -/
inductive Native where
  | builtin (b : Builtin)
  | script (body : Script)

structure Registry where
  natives : List (String × Native) := []
  /-- Names that stand for others. -/
  aliases : List (String × String) := []
  sources : Sources := {}
  loader : Modules.SourceLoader := Modules.loadNothing

/-- What waits in the job queue. -/
inductive Job where
  /-- Runs one handler of a reaction, and settles its promise with the result. -/
  | react (handler argument : Value) (fulfils : Bool) (derived : Ref)
  /-- Binds a promise to another object by its `then`. -/
  | adopt (promise : Ref) (round : Nat) (thenable method : Value)
  | invoke (f : Value) (args : List Value)
  /-- Lets a number of turns go by, then settles a promise. -/
  | settleAfter (turns : Nat) (promise : Ref) (value : Value) (fulfils : Bool)
  /-- Queues itself again. -/
  | spin

structure LogEntry where
  level : LogLevel
  text : String
  /-- The output stream that the text was written to. -/
  stream : Option String := none
  deriving Repr, DecidableEq

/-- Where running code stands. -/
structure Frame where
  file : String
  line : Nat
  function : String := "<anonymous>"
  deriving Repr, DecidableEq

/-- The surroundings that a guest cannot change. -/
structure Surroundings where
  host : Host.Access
  /-- The host's current directory. -/
  currentPath : Except Host.Failure String
  environment : List (String × String) := []
  /-- The user's directory, for an environment that does not name one. -/
  home : String := "/root"
  /-- The program that a source text stands for. -/
  compile : String → Option Script

structure World where
  heap : Heap := firstHeap
  surroundings : Surroundings
  registry : Registry := {}
  jobs : List Job := []
  frames : List Frame := []
  channels : Array (Stream.Channel Value Value) := #[]
  logs : Array LogEntry := #[]
  /-- Values stored under names. -/
  stored : List (String × Value) := []
  /-- Callbacks kept under names. -/
  kept : List (String × Value) := []
  /-- The calls that probes were given. -/
  calls : Array (List Value) := #[]
  notes : Array String := #[]
  /-- The modules that were shown to the hook which looks at installed modules. -/
  visited : Array String := #[]
  /-- How often the code that counts its runs has run. -/
  runs : List (String × Nat) := []
  nextCounter : Nat := 0
  nextSymbol : Nat := 0

end GuestLint.Guest
