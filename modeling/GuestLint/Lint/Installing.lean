import GuestLint.Guest.Engine
/-!
# Installing the builtin modules

The builtin modules are installed one after another, before any code of the guest runs. A hook may
choose how each of them is installed, and another may look at each of them afterwards; the first
failure ends the installation.

* `installAll`: the rule, for any monad.
* `installModules`: the rule over the guest's engine.
-/
namespace GuestLint.Lint

open Guest

/-- How a module is installed. -/
inductive Installer where
  | builtin (b : Builtin)
  /-- Registers nothing. -/
  | skip
  /-- The module needs settings that only a hook can give. -/
  | unconfigured (message : String)
  deriving Repr, DecidableEq

/-- A module to install. -/
structure Enable where
  name : String
  installer : Installer
  deriving Repr, DecidableEq

/-- A module that exports nothing. -/
def stub (name : String) : Enable := ⟨name, .builtin .empty⟩

/-- The modules, in the order in which they are installed. -/
def enables : List Enable :=
  [⟨"util", .builtin .util⟩, ⟨"stream", .builtin .stream⟩, stub "http", stub "https", stub "zlib",
    ⟨"url", .builtin .url⟩, ⟨"global", .builtin .global⟩,
    ⟨"fs", .unconfigured ("fs module requires a working directory and filesystem; " ++
      "install it through a before-module hook")⟩,
    stub "vm", ⟨"console", .builtin .console⟩,
    ⟨"process", .unconfigured ("process module requires a working directory; " ++
      "install it through a before-module hook")⟩,
    ⟨"module", .builtin .module⟩, stub "perf_hooks", stub "crypto", stub "assert",
    ⟨"path", .builtin .path⟩, ⟨"os", .builtin .os⟩, ⟨"buffer", .builtin .buffer⟩,
    ⟨"tty", .builtin .tty⟩, stub "constants", stub "punycode", ⟨"events", .builtin .events⟩]

/-- Whether a module exports nothing. -/
def Enable.isStub (e : Enable) : Bool :=
  e.installer == .builtin .empty

/-! ## Hooks -/

/-- Chooses how a module is installed, or fails with a message. -/
abbrev BeforeHook := Enable → Except String Installer

/-- Looks at a module that has been installed, and may fail with a message. -/
abbrev AfterHook := String → Except String Unit

/-- The installers that need settings get a working directory and a virtual file system; all
others stay as they are. -/
def defaultBefore (workingDirectory : String) (store : Option Virtual.Store) : BeforeHook :=
  fun enable =>
    if enable.name = "process" then .ok (.builtin (.process workingDirectory))
    else if enable.name = "fs" then .ok (.builtin (.file ⟨workingDirectory, store⟩))
    else .ok enable.installer

/-- A hook that failed. -/
inductive HookFailure where
  | before (module message : String)
  | after (module message : String)
  deriving Repr, DecidableEq

/-- Installs modules in order, up to the first failure. -/
def installAll {m : Type → Type} [Monad m] (before : Enable → m (Except String Installer))
    (install : String → Installer → m Unit) (after : String → m (Except String Unit)) :
    List Enable → m (Except HookFailure Unit)
  | [] => pure (.ok ())
  | enable :: rest => do
    match ← before enable with
    | .error message => pure (.error (.before enable.name message))
    | .ok installer =>
      install enable.name installer
      match ← after enable.name with
      | .error message => pure (.error (.after enable.name message))
      | .ok () => installAll before install after rest

/-- Installs one module in the guest's engine. -/
def Installer.install (name : String) : Installer → Machine Unit
  | .builtin b => installBuiltin engineCall name b
  | .skip => pure ()
  | .unconfigured message => throw (.fault message)

/-- Asks the hook that looks at installed modules, and notes which modules it was shown. -/
def runAfter (hook : Option AfterHook) (name : String) : Machine (Except String Unit) := do
  match hook with
  | none => pure (.ok ())
  | some f =>
    modify fun w => { w with visited := w.visited.push name }
    pure (f name)

/-- Makes `require` known and installs the builtin modules. -/
def installModules (before : Option BeforeHook) (after : Option AfterHook) :
    Machine (Except HookFailure Unit) := do
  enableRequire
  installAll
    (fun enable => pure
      (match before with
        | some hook => hook enable
        | none => .ok enable.installer))
    Installer.install (runAfter after) enables

end GuestLint.Lint
