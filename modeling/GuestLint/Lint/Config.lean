import GuestLint.Lint.Bundle
import GuestLint.Lint.Installing
import GuestLint.Text.Duration
import GuestLint.Text.Quoted
/-!
# Settings of a run

The settings of one run, and the options that change them. Options are applied in order, and the
first one that is refused ends it.
-/
namespace GuestLint.Lint

structure Config where
  dist : Bytes := Utf8.encode defaultBundle
  script : String := defaultScript
  /-- The directory that guests are told they work in; an empty one stands for the host's. -/
  workingDirectory : String := ""
  store : Option Virtual.Store := none
  before : Option BeforeHook := none
  after : Option AfterHook := none
  timeout : Option Duration := none
  /-- Whether the run has been cancelled, when it can be. -/
  cancelled : Option Bool := none
  memoryLimit : Option Nat := none

/-- A setting that was refused. -/
structure ConfigError where
  message : String
  deriving Repr, DecidableEq

/-- A change of the settings, which may refuse. -/
abbrev LintOption := Config → Except ConfigError Config

namespace LintOption

def dist (content : Bytes) : LintOption := fun c => .ok { c with dist := content }

def script (text : String) : LintOption := fun c => .ok { c with script := text }

def workingDirectory (path : String) : LintOption :=
  fun c => .ok { c with workingDirectory := path }

def store (s : Virtual.Store) : LintOption := fun c => .ok { c with store := some s }

def before (hook : BeforeHook) : LintOption := fun c => .ok { c with before := some hook }

def after (hook : AfterHook) : LintOption := fun c => .ok { c with after := some hook }

def timeout (d : Duration) : LintOption := fun c => .ok { c with timeout := some d }

def cancellation (cancelled : Bool) : LintOption :=
  fun c => .ok { c with cancelled := some cancelled }

/-- Limits the memory of the engine; a limit of nothing is refused. -/
def memoryLimit (bytes : Nat) : LintOption := fun c =>
  if bytes = 0 then .error ⟨"memory limit must be greater than zero"⟩
  else .ok { c with memoryLimit := some bytes }

/-- An option that is always refused. -/
def refused (message : String) : LintOption := fun _ => .error ⟨message⟩

end LintOption

namespace Config

/-- Applies options in order. -/
def ofOptions (options : List LintOption) : Except ConfigError Config :=
  options.foldlM (fun c option => option c) {}

/-! ## Written settings -/

/-- Elements between braces, as in `Name { a, b }`. -/
def braced (opening : String) (items : List String) : String :=
  opening ++ String.singleton (Char.ofNat 0x7B) ++ " " ++ ", ".intercalate items ++ " " ++
    String.singleton (Char.ofNat 0x7D)

def optional (item : Option String) : String :=
  match item with
  | some text => "Some(" ++ text ++ ")"
  | none => "None"

def writtenBool (b : Bool) : String := if b then "true" else "false"

/-- A set of files with their bytes as numbers. -/
def writtenFiles (files : List (String × Bytes)) : String :=
  let entries := files.map fun file =>
    Text.quoted file.1 ++ ": [" ++ ", ".intercalate (file.2.map fun b => toString b.toNat) ++ "]"
  String.singleton (Char.ofNat 0x7B) ++ ", ".intercalate entries ++
    String.singleton (Char.ofNat 0x7D)

def writtenStore : Virtual.Store → String
  | .memory m => braced "MemoryFs " ["files: " ++ writtenFiles m.files]
  | .directory d => braced "DirFs " ["root: " ++ Text.quoted d.root]

/-- The settings as a text for people who look for mistakes in them. -/
def written (c : Config) : String :=
  braced "Config "
    ["dist: <" ++ toString c.dist.length ++ " bytes>",
      "script: <" ++ toString c.script.utf8ByteSize ++ " bytes>",
      "working_directory: " ++ Text.quoted c.workingDirectory,
      "fs: " ++ optional (c.store.map writtenStore),
      "before_module: " ++ writtenBool c.before.isSome,
      "after_module: " ++ writtenBool c.after.isSome,
      "timeout: " ++ optional (c.timeout.map Duration.text),
      "cancellation: " ++ optional (c.cancelled.map fun b =>
        "CancellationToken(" ++ writtenBool b ++ ")"),
      "memory_limit: " ++ optional (c.memoryLimit.map toString)]

end Config
end GuestLint.Lint
