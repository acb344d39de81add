import GuestLint.Builtin.Util
/-!
# The surroundings as guests see them

The builtin modules `process`, `console`, `os`, `tty` and `events`: what a guest may know of the
system that it runs on, and where it can write to. Everything that is written becomes a log entry.
-/
namespace GuestLint.Builtin

open Guest

variable (call : Call)

/-- The release of the platform that guests are written for. -/
def platformVersion : String := "18.20.4"

/-- The name of the running program. -/
def programName : String := "spectral"

def platformName : String := "linux"

def architectureName : String := "x64"

/-- The working directory of a guest; an empty one stands for the host's. -/
def workingDirectoryOf (configured : String) : Machine String := do
  if configured ≠ "" then pure configured
  else
    match (← get).surroundings.currentPath with
    | .ok path => pure path
    | .error e => raise "Error" ("process.cwd: " ++ e.message)

def runProcess (f : ProcessFunction) (workingDirectory : String) (args : List Value) :
    Machine Value := do
  match f with
  | .on => pure .undefined
  | .cwd => .text <$> workingDirectoryOf workingDirectory
  | .write stream =>
    requireArgs 1 args
    let text ← toText call (argAt args 0)
    log .debug (String.ofList (Text.trimEnd text.toList)) (some stream)
    pure (.boolean true)
  | .nextTick =>
    enqueue (.invoke (argAt args 0) (args.drop 1))
    pure .undefined
  | .emitWarning =>
    requireArgs 1 args
    log .warn (← inspect call (argAt args 0)) none
    pure .undefined

/-- Logs the message that arguments make. -/
def writeLog (level : LogLevel) (args : List Value) : Machine Value := do
  log level (← format call args) none
  pure .undefined

/-- The value of an environment variable, if it is set. -/
def environmentValue? (name : String) : Machine (Option String) := do
  pure ((← get).surroundings.environment.lookup name)

/-- The one processor that guests are told of. -/
def processor : Machine Value := do
  let times ← makeRecord
    [("user", .ofNat 1), ("nice", .ofNat 0), ("sys", .ofNat 1), ("idle", .ofNat 0),
      ("irq", .ofNat 0)]
  .object <$> makeRecord
    [("model", .text "vCPU"), ("speed", .ofNat 2000), ("times", .object times)]

def runSystem (f : SystemFunction) : Machine Value := do
  match f with
  | .platform => pure (.text platformName)
  | .arch => pure (.text architectureName)
  | .type => pure (.text "Linux")
  | .cpus => do makeList [← processor]
  | .tmpdir => return .text ((← environmentValue? "TMPDIR").getD "/tmp")
  | .homedir =>
    match ← environmentValue? "HOME" with
    | some "" | none => return .text (← get).surroundings.home
    | some path => pure (.text path)
  | .isatty => pure (.boolean false)

def runEmitter (f : EmitterFunction) (this : Value) : Value :=
  match f with
  | .construct => .undefined
  | .chain => this
  | .emit => .boolean false
  | .listenerCount => .ofNat 0

end GuestLint.Builtin
