import GuestLint.Guest.Capture
import GuestLint.Lint.Config
import GuestLint.Lint.Report
import GuestLint.Lint.Waiting
/-!
# A lint run

One run of the linter: the settings are made, the builtin modules are installed, the bundle is
required and the driver script is evaluated. What the script completes with, or what its promise
comes to, has to be the text of a report.
-/
namespace GuestLint.Lint

open Diagnostics (Captured)
open Guest

inductive LintError where
  | config (cause : ConfigError)
  /-- The host's current directory is unknown. -/
  | workingDirectory (cause : Host.Failure)
  | hook (failure : HookFailure)
  /-- The engine does not start in the memory that it may use. -/
  | noMemory
  /-- An exception of the modules, the bundle or the driver script. -/
  | evaluate (captured : Captured)
  | promiseRejected (reason : String)
  /-- The result is no text; the word for its type. -/
  | unknownReturn (type : String)
  | decode (cause : Json.Error)
  | halted (halt : Halt)
  /-- The result can never come. -/
  | stalled
  /-- The engine gave up. -/
  | fault (message : String)
  /-- The guest never comes back, and nothing stops it. -/
  | endless
  deriving Repr, DecidableEq

def Halt.message : Halt → String
  | .cancelled => "Lint was cancelled"
  | .timeout limit => "Lint timed out after " ++ limit.text

def HookFailure.message : HookFailure → String
  | .before module message =>
    "failed to run BeforeModule hook for '" ++ module ++ "': " ++ message
  | .after module message => "failed to run AfterModule hook for '" ++ module ++ "': " ++ message

/-- The text of an error; `captured` says how an exception is shown. -/
def LintError.text (captured : Captured → String) : LintError → String
  | .config cause => "Configuration error: " ++ cause.message
  | .workingDirectory cause => "Failed to determine working directory: " ++ cause.message
  | .hook failure => failure.message
  | .noMemory => "Engine error: Allocation failed while creating object"
  | .evaluate c => captured c
  | .promiseRejected reason => reason ++ ": promise rejected"
  | .unknownReturn type => "invalid value type of lint result '" ++ type ++ "': unknown return"
  | .decode cause => "Failed to decode lint output: " ++ cause.message
  | .halted halt => halt.message
  | .stalled => "Lint result is pending with no jobs left to run"
  | .fault message => message
  | .endless => "Lint does not end"

def LintError.message : LintError → String := LintError.text Captured.message

/-- What a run needs to know of the host: its files, its clock, and the programs that its sources
stand for. The clock is read once at the start and then once for each look at the result. -/
structure HostContext where
  host : Host.Access
  currentPath : Except Host.Failure String
  environment : List (String × String) := []
  /-- The user's directory, for an environment that does not name one. -/
  home : String := "/root"
  clock : Nat → Instant := fun _ => 0
  programs : List (String × Script) := []

def HostContext.surroundings (context : HostContext) : Surroundings :=
  { host := context.host
    currentPath := context.currentPath
    environment := context.environment
    home := context.home
    compile := compile context.programs }

/-- Serves the bundle under its name and all other modules from the host. -/
def bundleLoader (host : Host.Access) (dist : Bytes) : Modules.SourceLoader := fun name =>
  if name = bundleName then .ok dist else Modules.loadFromDisk host name

/-- The settings of a run: the options, and what stands in for those that were not given. -/
def settle (context : HostContext) (options : List LintOption) : Except LintError Config := do
  let config ← (Config.ofOptions options).mapError .config
  let directory ←
    if config.workingDirectory = "" then context.currentPath.mapError .workingDirectory
    else pure config.workingDirectory
  pure { config with
    workingDirectory := directory
    before := some (config.before.getD (defaultBefore directory config.store)) }

/-- Ends a run. -/
abbrev Run (α : Type) := ExceptT LintError (StateM World) α

/-- A stage of a run. Thrown values are captured, and an expired watchdog is told instead. -/
def stage {α : Type} (watchdog : Watchdog) (now : Instant) (action : Machine α) : Run α := do
  match ← (ExceptT.run action : StateM World _) with
  | .ok a => pure a
  | .error (.fault message) => throw (.fault message)
  | .error .endless =>
    match watchdog.deadline with
    | some (_, limit) => throw (.halted (.timeout limit))
    | none => throw .endless
  | .error (.thrown v) =>
    match watchdog.check now with
    | .error halt => throw (.halted halt)
    | .ok () =>
      match ← (ExceptT.run (capture engineCall v) : StateM World _) with
      | .ok captured => throw (.evaluate captured)
      | .error _ => throw .endless

/-- Binds the names that the bundle finds its work under. -/
def bindWork (workingDirectory : String) (documents : List String) (ruleset : String) :
    Machine Unit := do
  assign Place.global directoryName (.text workingDirectory)
  assign Place.global documentsName (← makeList (documents.map .text))
  assign Place.global rulesetName (.text ruleset)

/-- Evaluates the driver script. -/
def evaluateScript (script : String) : Machine Value := do
  modifyRegistry (·.recordSource scriptName script)
  match (← get).surroundings.compile script with
  | some body => runDriverScript engineCall scriptName body
  | none => atPlace ⟨scriptName, 1, "<eval>"⟩ (raise "SyntaxError" "unexpected token in script")

/-- The promise that a value is. -/
def promise? (v : Value) : Machine (Option Ref) := do
  match v with
  | .object r => pure ((← promiseState? r).map fun _ => r)
  | _ => pure none

/-- What can be seen of a promise. -/
def observePromise (promise : Ref) : Machine (Observation Value) := do
  match ← promiseState? promise with
  | some (.fulfilled value) => pure (.resolved value)
  | some (.rejected reason) => pure (.rejected reason)
  | _ => pure .pending

/-- How often a result is looked at before a run is given up: more often than any run can do. -/
def maxLooks : Nat := Nat.pow 2 62

/-- How a run waits for a promise. The state counts the answers that the watchdog has given, so that
each of them can be a new one. -/
def promiseWaiting (call : Call) (answers : Nat → Except Halt Unit) (promise : Ref) :
    Waiting (StateT Nat Machine) Value where
  observe := observePromise promise
  check := do
    let look ← modifyGet fun n => (n, n + 1)
    pure (answers look)
  runJob := runJob call

/-- Waits for a promise for a number of looks. The clock is read anew for each answer of the
watchdog. -/
def waitWithin (looks : Nat) (call : Call) (watchdog : Watchdog) (clock : Nat → Instant)
    (promise : Ref) : Machine (Option (WaitOutcome Value)) :=
  let answers (look : Nat) := watchdog.check (clock look)
  ((promiseWaiting call answers promise).wait looks).run' 0

/-- What a run makes of the end of its wait. -/
def conclude (call : Call) (watchdog : Watchdog) (now : Instant) : WaitOutcome Value → Run Value
  | .resolved value => pure value
  | .rejected reason => do
    throw (.promiseRejected (← stage watchdog now (describe call reason)))
  | .halted halt => throw (.halted halt)
  | .stalled => throw .stalled

/-- The final value of a script: the value itself, or what its promise comes to within a number of
looks. -/
def finalValueWithin (looks : Nat) (call : Call) (watchdog : Watchdog) (clock : Nat → Instant)
    (completion : Value) : Run Value := do
  let now := clock 0
  match ← stage watchdog now (promise? completion) with
  | none => pure completion
  | some promise =>
    match ← stage watchdog now (waitWithin looks call watchdog clock promise) with
    | some outcome => conclude call watchdog now outcome
    | none => throw .endless

def finalValue (call : Call) (watchdog : Watchdog) (clock : Nat → Instant) (completion : Value) :
    Run Value :=
  finalValueWithin maxLooks call watchdog clock completion

/-- The exception of an engine that is stopped while it runs. -/
def interrupted : Captured :=
  .ofThrown {} (some "InternalError: interrupted") none none

/-- The memory that an engine needs to start, in bytes. -/
def leastMemory : Nat := 0x10000

/-- Starts the engine, and the watchdog with it. -/
def startEngine (context : HostContext) (config : Config) : Run Watchdog := do
  let some watchdog := Watchdog.start (context.clock 0) config.timeout (config.cancelled.getD false)
    | throw (.fault "overflow when adding duration to instant")
  if config.memoryLimit.any (· < leastMemory) then throw .noMemory
  match watchdog.check (context.clock 0) with
  | .error _ => throw (.evaluate interrupted)
  | .ok () => pure watchdog

/-- Installs the builtin modules. -/
def loadModules (watchdog : Watchdog) (now : Instant) (before : Option BeforeHook)
    (after : Option AfterHook) : Run Unit := do
  match ← stage watchdog now (installModules before after) with
  | .error failure => throw (.hook failure)
  | .ok () => pure ()

/-- The report that a value is the text of. -/
def readReport (watchdog : Watchdog) (now : Instant) : Value → Run Report
  | .text json =>
    match Report.decode json with
    | .ok report => pure report
    | .error e => throw (.decode e)
  | v => do throw (.unknownReturn (← stage watchdog now (do pure ((← heap).typeWord v))))

/-- Requires the bundle, evaluates the driver script, and makes a report of its value. -/
def runBundleWithin (looks : Nat) (context : HostContext) (config : Config) (watchdog : Watchdog)
    (documents : List String) (ruleset : String) : Run Report := do
  let now := context.clock 0
  let completion ← stage watchdog now do
    bindWork config.workingDirectory documents ruleset
    let _ ← callRequire engineCall bundleName
    evaluateScript config.script
  readReport watchdog now
    (← finalValueWithin looks engineCall watchdog context.clock completion)

/-- Runs the linter in a fresh engine. -/
def runConfigWithin (looks : Nat) (context : HostContext) (config : Config)
    (documents : List String) (ruleset : String) : Run Report := do
  let watchdog ← startEngine context config
  loadModules watchdog (context.clock 0) config.before config.after
  runBundleWithin looks context config watchdog documents ruleset

/-- The world of a run before it starts. -/
def startWorld (context : HostContext) (loader : Modules.SourceLoader) : World :=
  { surroundings := context.surroundings, registry := { loader := loader } }

/-- Lints documents against a ruleset, with a number of looks at the result. The answer is given
with the world that the run left. -/
def lintWithin (looks : Nat) (context : HostContext) (documents : List String) (ruleset : String)
    (options : List LintOption) : Except LintError Report × World :=
  match settle context options with
  | .error e => (.error e, startWorld context Modules.loadNothing)
  | .ok config =>
    (ExceptT.run (runConfigWithin looks context config documents ruleset)).run
      (startWorld context (bundleLoader context.host config.dist))

/-- Lints documents against a ruleset. -/
def lint (context : HostContext) (documents : List String) (ruleset : String)
    (options : List LintOption) : Except LintError Report × World :=
  lintWithin maxLooks context documents ruleset options

end GuestLint.Lint
