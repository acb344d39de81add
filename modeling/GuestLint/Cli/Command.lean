import GuestLint.Cli.Arguments
import GuestLint.Lint.FileConfig
import GuestLint.Lint.Run
/-!
# Carrying out a command

The two commands of the command line. Settings come from the command line first, then from a
configuration file, and then from the defaults of a run.
-/
namespace GuestLint.Cli

open Guest (LogEntry World)
open Lint (FileConfig HostContext LintError LintOption OutputFormat Report)

inductive CommandError where
  | config (cause : Lint.FileConfigError)
  | noDocuments
  /-- A working directory cannot be made absolute. -/
  | emptyDirectory
  | currentDirectory (cause : Host.Failure)
  | unreadableBundle (path : String) (cause : Host.Failure)
  | unreadableScript (path : String) (cause : Host.Failure)
  | lint (cause : LintError)
  | listing (cause : Lint.ListingError)
  deriving Repr, DecidableEq

/-- The text of an error; `captured` says how an exception is shown. -/
def CommandError.text (captured : Diagnostics.Captured → String) : CommandError → String
  | .config cause => "Configuration error: " ++ cause.message
  | .noDocuments =>
    "No documents to lint. Pass them as arguments or list them in the config file."
  | .emptyDirectory => "cannot make an empty path absolute"
  | .currentDirectory cause => cause.message
  | .unreadableBundle path cause => "Failed to read bundle " ++ path ++ ": " ++ cause.message
  | .unreadableScript path cause => "Failed to read script " ++ path ++ ": " ++ cause.message
  | .lint cause => cause.text captured
  | .listing cause => cause.message

def CommandError.message : CommandError → String :=
  CommandError.text Diagnostics.Captured.message

/-- What a command printed before it failed. -/
def CommandError.printed : CommandError → String
  | .listing cause => cause.printed
  | _ => ""

/-- The exit code of a command that failed: 101 where the program was ended halfway. -/
def CommandError.code : CommandError → Nat
  | .lint (.fault _) | .listing _ => 101
  | _ => 2

/-- What a command printed, and whether it found errors. -/
structure Success where
  output : String
  hasErrors : Bool
  deriving Repr, DecidableEq

/-- The ruleset of a run for which none is named. -/
def defaultRuleset : String := "./.spectral.yaml"

/-- A warning when a run has no bundle of its own. -/
def missingBundleWarning : LogEntry :=
  ⟨.warn, "No Spectral bundle was embedded at build time; pass --dist to provide one", none⟩

/-! ## Settings -/

/-- The configuration file that is named, or the one of the current directory. -/
def readConfig (host : Host.Access) (named : Option String) : Except CommandError FileConfig :=
  match named.or (FileConfig.discover host ".") with
  | some path => (FileConfig.ofFile host path).mapError .config
  | none => .ok {}

/-- A path from the root on. Idle elements are dropped, while `..` and a separator at the end
stay; a start of exactly two separators is kept. -/
def absolutePath (currentPath : Except Host.Failure String) (path : String) :
    Except CommandError String := do
  if path = "" then throw .emptyDirectory
  let names := Path.components path
  let start ←
    if Path.isAbsolute path then
      pure (if (Text.strip? "//".toList path.toList).isSome ∧
        (Text.strip? "///".toList path.toList).isNone then "//" else "/")
    else currentPath.mapError .currentDirectory
  let joined := names.foldl Host.extend start
  if path.toList.getLast? = some '/' ∧ joined.toList.getLast? ≠ some '/' then pure (joined ++ "/")
  else pure joined

/-- The working directory of a run, if one is named. -/
def directoryOption (context : HostContext) (args : LintArgs) (config : FileConfig) :
    Except CommandError (List LintOption) := do
  match args.cwd.or (config.workingDirectory.map config.resolvePath) with
  | some path => return [LintOption.workingDirectory (← absolutePath context.currentPath path)]
  | none => pure []

/-- The bundle of a run, if one is named. -/
def bundleOption (context : HostContext) (args : LintArgs) (config : FileConfig) :
    Except CommandError (List LintOption) :=
  match args.dist.or (config.dist.map config.resolvePath) with
  | none => .ok []
  | some path =>
    match context.host.read path with
    | .ok content => .ok [LintOption.dist content]
    | .error e => .error (.unreadableBundle path e)

/-- The driver script of a run, if one is named. -/
def scriptOption (context : HostContext) (args : LintArgs) :
    Except CommandError (List LintOption) :=
  match args.script with
  | none => .ok []
  | some path =>
    match context.host.read path with
    | .error e => .error (.unreadableScript path e)
    | .ok content =>
      match Utf8.decode? content with
      | some text => .ok [LintOption.script text]
      | none => .error (.unreadableScript path .notText)

/-- The time limit of a run, if one is set. -/
def timeoutOption (args : LintArgs) (config : FileConfig) : List LintOption :=
  match (args.timeout.map Duration.ofSeconds).or config.timeout with
  | some d => [LintOption.timeout d]
  | none => []

/-! ## Commands -/

/-- The result of a command, and what was logged on the way. -/
structure Outcome where
  result : Except CommandError Success
  logs : List LogEntry := []

/-- Lints the documents that are named. -/
def runLint (context : HostContext) (configPath : Option String) (args : LintArgs) : Outcome :=
  let settings : Except CommandError (FileConfig × List String) := do
    let config ← readConfig context.host configPath
    let documents := if args.documents.isEmpty then config.documents else args.documents
    if documents.isEmpty then throw .noDocuments
    pure (config, documents)
  match settings with
  | .error e => ⟨.error e, []⟩
  | .ok (config, documents) =>
    let ruleset := (args.ruleset.or config.ruleset).getD defaultRuleset
    let bundle : Except CommandError (List LintOption × List LintOption) := do
      pure (← directoryOption context args config, ← bundleOption context args config)
    match bundle with
    | .error e => ⟨.error e, []⟩
    | .ok (directory, dist) =>
      let warnings := if dist.isEmpty then [missingBundleWarning] else []
      match scriptOption context args with
      | .error e => ⟨.error e, warnings⟩
      | .ok script =>
        let options := directory ++ dist ++ script ++ timeoutOption args config
        let (result, world) := Lint.lint context documents ruleset options
        let logs := warnings ++ world.logs.toList
        match result with
        | .error e => ⟨.error (.lint e), logs⟩
        | .ok report =>
          match report.shown args.format with
          | .ok output => ⟨.ok ⟨output, report.hasErrors⟩, logs⟩
          | .error e => ⟨.error (.listing e), logs⟩

/-- Lists the builtin modules. -/
def modulesListing : String :=
  String.join <| Lint.enables.map fun enable =>
    (if enable.isStub then enable.name ++ " (stub)" else enable.name) ++ "\n"

/-- Carries out what a command line asks for. -/
def Invocation.run (context : HostContext) (invocation : Invocation) : Outcome :=
  match invocation.command with
  | .modules => ⟨.ok ⟨modulesListing, false⟩, []⟩
  | .lint args => runLint context invocation.config args

end GuestLint.Cli
