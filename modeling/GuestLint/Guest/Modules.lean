import GuestLint.Guest.Build
import GuestLint.Guest.Stringify
import GuestLint.Builtin.Catalog
import GuestLint.Modules.Require
import GuestLint.Lint.Sample
/-!
# Modules of a guest

How a guest's modules are found, loaded and run. A name is resolved through the aliases of the
registry, and a module that is not registered is looked for among the sources.

* `Registry`: registering modules, resolving names, recorded sources.
* `runSteps`: runs the steps of a module, each at its own line.
* `requireModule`: the rule of `Modules.Cache` over the guest's own cache object.
-/
namespace GuestLint.Guest

/-! ## The registry -/

namespace Registry

/-- Registers a module under a name, in place of one of the same name. -/
def registerNative (g : Registry) (name : String) (module : Native) : Registry :=
  { g with natives := (name, module) :: g.natives.filter (·.1 ≠ name) }

/-- What builtin modules may be named in addition to their names. -/
def namespaced (name : String) : String := "node:" ++ name

/-- Registers a module under its name and under its namespaced name. -/
def registerBuiltin (g : Registry) (name : String) (module : Native) : Registry :=
  let g := g.registerNative name module
  { g with aliases := (namespaced name, name) :: g.aliases.filter (·.1 ≠ namespaced name) }

/-- The identity that a name stands for. -/
def resolve (g : Registry) (name : String) : String :=
  (g.aliases.lookup name).getD name

def isRegistered (g : Registry) (name : String) : Bool :=
  (g.natives.lookup (g.resolve name)).isSome

def recordSource (g : Registry) (name text : String) : Registry :=
  { g with sources := g.sources.record name text }

end Registry

def modifyRegistry (f : Registry → Registry) : Machine Unit :=
  modify fun w => { w with registry := f w.registry }

/-! ## Running the steps of a module -/

variable (call : Call)

def callRequire (name : String) : Machine Value :=
  call (.object Place.requireFunction) .undefined [.text name]

/-- A place in a document, as an object. -/
def positionObject (line character : Nat) : Machine Value := do
  .object <$> makeRecord [("line", .ofNat line), ("character", .ofNat character)]

def rangeObject (line first last : Nat) : Machine Value := do
  .object <$> makeRecord
    [("start", ← positionObject line first), ("end", ← positionObject line last)]

/-- The JSON text of a list with one violation, at the start of no document. -/
def violationText (code : String) (path : Value) (message : String) (severity : Nat) :
    Machine Value := do
  let violation ← makeRecord
    [("code", .text code), ("path", path), ("message", .text message),
      ("severity", .ofNat severity), ("range", ← rangeObject 0 0 0)]
  match ← stringify call (← makeList [.object violation]) with
  | some json => pure (.text json)
  | none => pure .undefined

/-- The name under which the bundle is required. -/
def bundleName : String := "./dist/built.js"

def documentsName : String := "lintDocuments"

def rulesetName : String := "lintRuleset"

def directoryName : String := "__dirname"

def globalValue (name : String) : Machine Value :=
  getProperty (.object Place.global) name

/-- Formats the results of the bundle once they are there. -/
def bundleResults : Machine Value := do
  let bundle ← callRequire call bundleName
  let promise ← makePromise
  let outcome ← attempt do
    let format ← makeFunction "" (.formatResults bundle promise)
    let formatted ← callMethod call (← getProperty bundle "lint") "then" [.object format]
    let refuse ← makeFunction "" (.settle promise 0 false)
    callMethod call formatted "catch" [.object refuse]
  match outcome with
  | .ok _ => pure ()
  | .error e => settleInRound promise 0 false e
  pure (.object promise)

def Completion.run : Completion → Machine Value
  | .value v => v.build
  | .bindings => do
    let ruleset ← toText call (← globalValue rulesetName)
    let directory ← toText call (← globalValue directoryName)
    violationText call "globals" (← globalValue documentsName) (ruleset ++ "|" ++ directory) 0
  | .exports => do
    let exports ← objectArg (← callRequire call bundleName)
    let names := ((← heap).at_ exports).ownNames
    violationText call "exports" (← makeList (names.map .text)) "" 3
  | .promise settling => settling.build
  | .formattedResults => bundleResults call

/-- What a running module knows of itself. -/
structure ModuleScope where
  module : Ref
  exports : Value
  /-- The file and its directory, for modules that have a source. -/
  file : Option (String × String)

/-- What a module knows of itself, as a text. -/
def ModuleScope.description (scope : ModuleScope) : Machine String := do
  let property (name : String) : Machine String := do
    toText call (← getProperty (.object scope.module) name)
  let same := Value.same (← getProperty (.object scope.module) "exports") scope.exports
  let (file, directory) := scope.file.getD ("", "")
  pure ("|".intercalate
    [← property "id", ← property "loaded", file, directory, "true",
      if same then "true" else "false"])

/-- Sets a property of the exports. -/
def ModuleScope.export (scope : ModuleScope) (key : String) (v : Value) : Machine Unit := do
  assign (← objectArg scope.exports) key v

/-- Starts to read a text file, and answers a promise of its text. -/
def readPromised (files : Value) (path : String) : Machine Ref := do
  let promise ← makePromise
  let callback ← makeFunction "" (.promisedResult promise)
  let _ ← callMethod call files "readFile" [.text path, .text "utf8", .object callback]
  pure promise

/-- Starts the linter of two checks, and answers a promise of its results. -/
def startSampleLinter : Machine Value := do
  let files ← callRequire call "fs"
  let _ ← callRequire call "node:path"
  let process ← callRequire call "process"
  let directory ← toText call (← callMethod call process "cwd" [])
  let ruleset ← toText call (← globalValue rulesetName)
  let path := Path.resolve [directory, ruleset]
  let promise ← readPromised call files path
  let check ← makeFunction "" (.sampleChecks path directory files)
  .object <$> addReaction promise (.object check) .undefined

/-- Runs one step; the answer is its value as an expression, if it is one. -/
def Step.run (scope : ModuleScope) : Step → Machine (Option Value)
  | .idle => pure none
  | .set key v => do
    scope.export key (← v.build)
    pure none
  | .replace v => do
    assign scope.module "exports" (← v.build)
    pure none
  | .require name key => do
    let exports ← callRequire call name
    match key with
    | some k => scope.export k exports
    | none => pure ()
    pure (some exports)
  | .tryRequire name => do
    match ← attempt (callRequire call name) with
    | .ok _ => pure ()
    | .error e => noteText ("caught " ++ (← shownText call e))
    pure none
  | .note v => do
    noteText (← shownText call (← v.build))
    pure none
  | .describe => do
    noteText (← scope.description call)
    pure none
  | .throw v => do throwValue (← v.build)
  | .throwError name message =>
    if name ∈ Place.errorNames then raise name message
    else raise "ReferenceError" ("'" ++ name ++ "' is not defined")
  | .failFirst key times message => do
    if (← countRun key) < times then raise "Error" message else pure none
  | .loop => runForever
  | .lint settling => do
    scope.export "lint" (← settling.build)
    pure none
  | .format formatter => do
    scope.export "formatOutput" (.object (← makeFunction "" (.formatter formatter)))
    pure none
  | .sampleLinter => do
    scope.export "formatOutput" (.object (← makeFunction "formatOutput" (.formatter .results)))
    scope.export "lint" (← startSampleLinter call)
    pure none
  | .complete completion => some <$> completion.run call

/-- Runs steps from a line on; the answer is the value of the last expression. -/
def runSteps (scope : ModuleScope) (file : Option String) :
    (line : Nat) → (value : Value) → Script → Machine Value
  | _, value, [] => pure value
  | line, value, step :: rest => do
    let result ← match file with
      | some name => atPlace ⟨name, line, "<anonymous>"⟩ (step.run call scope)
      | none => step.run call scope
    runSteps scope file (line + 1) (result.getD value) rest

/-- Runs a driver script under the name of its file. -/
def runDriverScript (file : String) (body : Script) : Machine Value := do
  let scope : ModuleScope := ⟨Place.global, .object Place.global, none⟩
  runSteps call scope (some file) 1 .undefined body

/-! ## Loading modules -/

/-- The stack places of the code that requires modules. -/
def requireFrame : Frame := ⟨"node:internal/require", 12, "require"⟩

/-- Says that there is no module of a name. -/
def raiseMissing (name : String) : Machine Unit := do
  let r ← makeError "Error" ("Cannot find module '" ++ name ++ "'")
  assign r "code" (.text "MODULE_NOT_FOUND")
  assign r "moduleName" (.text name)
  throwValue (.object r)

/-- Runs the source text of a module. -/
def runSource (name text : String) (entry : Ref) (exports : Value) : Machine Unit := do
  modifyRegistry (·.recordSource name text)
  match (← get).surroundings.compile text with
  | none => atPlace ⟨name, 1, "<anonymous>"⟩ (raise "SyntaxError" "unexpected token in module")
  | some body =>
    let _ ← runSteps call ⟨entry, exports, some (name, Path.dirname name)⟩ (some name) 1
      .undefined body

/-- Runs the body of a module: the registered one, or else its source. -/
def runModule (id : String) (entry : Ref) : Machine Unit := do
  let registry := (← get).registry
  let exports ← getProperty (.object entry) "exports"
  match registry.natives.lookup id with
  | some (.builtin b) => Builtin.load b entry
  | some (.script body) =>
    let _ ← runSteps call ⟨entry, exports, none⟩ none 1 .undefined body
  | none =>
    match registry.loader id with
    | .ok content => runSource call id (Utf8.decodeLossy content) entry exports
    | .error _ => raiseMissing id

/-- The guest's module cache: entries are objects, kept as the properties of one object. -/
def moduleCache : Modules.Cache Machine Ref Value where
  resolve name := do pure ((← get).registry.resolve name)
  lookup id := do
    match (← heap).own? Place.moduleCache id with
    | some (.object entry) => pure (some entry)
    | _ => pure none
  fresh id := do
    let exports ← makeRecord []
    makeRecord [("id", .text id), ("exports", .object exports), ("loaded", .boolean false)]
  store id entry := assign Place.moduleCache id (.object entry)
  evict id := deleteProperty Place.moduleCache id
  run id entry := runModule call id entry
  markLoaded entry := assign entry "loaded" (.boolean true)
  exports entry := getProperty (.object entry) "exports"

/-- The exports of the module that a value names. -/
def requireModule (name : Value) : Machine Value :=
  atPlace requireFrame do
    (moduleCache call).require Stop (← shownText call name)

/-! ## Installing builtin modules -/

/-- Registers a builtin module, and binds the global that goes with it. -/
def installBuiltin (name : String) (b : Builtin) : Machine Unit := do
  modifyRegistry (·.registerBuiltin name (.builtin b))
  match Builtin.globalBinding b with
  | none => pure ()
  | some (globalName, property) =>
    let exports ← callRequire call name
    let value ← match property with
      | some p => getProperty exports p
      | none => pure exports
    assign Place.global globalName value

/-- Makes `require` known to the guest. -/
def enableRequire : Machine Unit :=
  assign Place.global "require" (.object Place.requireFunction)

end GuestLint.Guest
