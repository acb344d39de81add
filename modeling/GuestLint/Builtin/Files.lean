import GuestLint.Guest.Build
import GuestLint.Virtual.Resolution
/-!
# File functions for guests

The builtin module `fs`: reading and inspecting files by path, in three styles that share one
lookup. A failure is an error that names a code, the operation and the path; it is thrown, passed
to a callback, or the reason of a promise.
-/
namespace GuestLint.Builtin

open Guest
open Host (Failure FailureKind FileKind FileStat Time)
open Virtual (Resolution)

variable (call : Call)

/-- The code that guests know a class of failures by. -/
def failureCode : FailureKind → String
  | .notFound => "ENOENT"
  | .permissionDenied => "EACCES"
  | .alreadyExists => "EEXIST"
  | .isADirectory => "EISDIR"
  | .notADirectory => "ENOTDIR"
  | .invalidInput => "EINVAL"
  | _ => "EIO"

/-- The error of a failed file operation. -/
def fileError (e : Failure) (operation path : String) : Machine Value := do
  let code := failureCode e.kind
  let r ← makeError "Error"
    (code ++ ": " ++ e.message ++ ", " ++ operation ++ " '" ++ path ++ "'")
  assign r "code" (.text code)
  assign r "syscall" (.text operation)
  assign r "path" (.text path)
  pure (.object r)

/-- The questions that can be asked about the kind of an entry. -/
def kindQuestions : List (String × FileKind) :=
  [("isFile", .file), ("isDirectory", .directory), ("isSymbolicLink", .symlink),
    ("isBlockDevice", .blockDevice), ("isCharacterDevice", .charDevice), ("isFIFO", .fifo),
    ("isSocket", .socket)]

/-- The milliseconds from the start of 1970 to a time after it: the rounded number of seconds, times
a thousand and rounded once more. -/
def elapsedMillis (time : Nat) : Double :=
  let seconds := Double.ofInt (time / 1000000000)
  let part := (Double.ofInt (time % 1000000000)).div (.ofInt 1000000000)
  (seconds.add part).mul (.ofInt 1000)

/-- A time of change as it is shown, in milliseconds; zero when it is not known or before 1970. -/
def changeMillis : Option Time → Double
  | some (.ofNat time) => elapsedMillis time
  | some (.negSucc _) | none => .ofInt 0

/-- What an inspection tells, as an object. -/
def statsObject (stat : FileStat) : Machine Value := do
  let r ← makeRecord
    [("size", .ofNat stat.size), ("dev", .ofNat 0),
      ("mtimeMs", .number (changeMillis stat.changed))]
  for (name, kind) in kindQuestions do
    let f ← makeFunction name (.answer (decide (stat.kind = kind)))
    assign r name (.object f)
  pure (.object r)

/-- An operation on a path, as the value it gives or the error it ends in. -/
inductive FileOperation where
  | stat
  | lstat
  | readText
  deriving Repr, DecidableEq

def FileOperation.name : FileOperation → String
  | stat => "stat"
  | lstat => "lstat"
  | readText => "open"

/-- Runs an operation: the one lookup behind all styles of calling it. -/
def FileOperation.run (operation : FileOperation) (files : Resolution) (path : String) :
    Machine (Except Value Value) := do
  let host := (← get).surroundings.host
  let finish {α : Type} (result : Except Failure α) (value : α → Machine Value) :
      Machine (Except Value Value) := do
    match result with
    | .ok a => .ok <$> value a
    | .error e => .error <$> fileError e operation.name path
  match operation with
  | .stat => finish (← lookedUp (files.stat host path)) statsObject
  | .lstat => finish (← lookedUp (files.lstat host path)) statsObject
  | .readText =>
    finish (← lookedUp (files.read host path)) fun content =>
      pure (.text (Utf8.decodeLossy content))

/-- Answers by value or by exception. -/
def bySync (result : Except Value Value) : Machine Value :=
  match result with
  | .ok v => pure v
  | .error e => throwValue e

/-- Answers by calling a callback with an error and a value, one of them `null`. -/
def byCallback (callback : Value) (result : Except Value Value) : Machine Value := do
  match result with
  | .ok v => let _ ← call callback .undefined [.null, v]
  | .error e => let _ ← call callback .undefined [e, .null]
  pure .undefined

/-- Answers by a promise. -/
def byPromise (result : Except Value Value) : Machine Value := do
  let promise ← makePromise
  match result with
  | .ok v => resolve promise v
  | .error e => reject promise e
  pure (.object promise)

/-- The callback among the arguments of `readFile`, which may follow options. -/
def readCallback (args : List Value) : Machine Value := do
  match args[2]? with
  | some third => functionArg third
  | none =>
    let second := argAt args 1
    if (← heap).isFunction second then pure second
    else raise "TypeError" "fs.readFile: callback must be a function"

def runFile (f : FileFunction) (files : Resolution) (args : List Value) :
    Machine Value := do
  let sync (operation : FileOperation) : Machine Value := do
    requireArgs 1 args
    bySync (← operation.run files (← textArg (argAt args 0)))
  let withCallback (operation : FileOperation) : Machine Value := do
    requireArgs 2 args
    let path ← textArg (argAt args 0)
    let callback ← functionArg (argAt args 1)
    byCallback call callback (← operation.run files path)
  match f with
  | .stat => withCallback .stat
  | .lstat => withCallback .lstat
  | .statSync => sync .stat
  | .lstatSync => sync .lstat
  | .readFileSync => sync .readText
  | .readFile =>
    requireArgs 2 args
    let path ← textArg (argAt args 0)
    let callback ← readCallback args
    byCallback call callback (← FileOperation.readText.run files path)
  | .readFilePromise =>
    requireArgs 1 args
    byPromise (← FileOperation.readText.run files (← textArg (argAt args 0)))
  | .existsSync =>
    requireArgs 1 args
    let path ← textArg (argAt args 0)
    let result ← lookedUp (files.stat (← get).surroundings.host path)
    pure (.boolean result.isOk)
  | .realpath =>
    requireArgs 1 args
    throw (.fault "fs.realpath is not implemented")
  | .realpathNative =>
    requireArgs 1 args
    throw (.fault "fs.realpath.native is not implemented")

end GuestLint.Builtin
