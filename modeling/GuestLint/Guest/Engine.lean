import GuestLint.Guest.Modules
/-!
# The engine

What each function of the heap does, and with it the `Call` that all other modules take as a
parameter. A call may nest further calls to a limit.
-/
namespace GuestLint.Guest

variable (call : Call)

/-! ## What the language provides -/

def functionText (v : Value) : Machine String := do
  match ← getProperty v "name" with
  | .text name => pure ("function " ++ name ++ "() \x7b\n    [native code]\n\x7d")
  | _ => pure "function () \x7b\n    [native code]\n\x7d"

def runIntrinsic (f : Intrinsic) (this : Value) (args : List Value) : Machine Value := do
  match f with
  | .objectText => pure (.text (objectText (← heap) this))
  | .objectValue => pure this
  | .functionText => .text <$> functionText this
  | .errorText => .text <$> errorText call this
  | .listText => .text <$> joinElements call this ","
  | .listJoin =>
    match argAt args 0 with
    | .undefined => .text <$> joinElements call this ","
    | separator => do pure (.text (← joinElements call this (← toText call separator)))
  | .promiseThen => do
    .object <$> addReaction (← objectArg this) (argAt args 0) (argAt args 1)
  | .promiseCatch => callMethod call this "then" [.undefined, argAt args 0]
  | .makeError name =>
    match argAt args 0 with
    | .undefined => .object <$> makeError name ""
    | message => do pure (.object (← makeError name (← toText call message)))

/-! ## Streams in programs -/

/-- The write that a consumer is asked to take. -/
structure PendingWrite where
  stream : Value
  chunk : Value
  callback : Value

/-- Makes an instance of a function. -/
def construct (f : Value) (args : List Value) : Machine Value := do
  match (← heap).function? f with
  | some (.buffer .construct) => Builtin.constructBuffer call args
  | some g =>
    if g.isConstructor then
      let parent ← match ← getProperty f "prototype" with
        | .object r => pure r
        | _ => pure Place.objectParent
      let r ← allocate ⟨.plain, some parent, []⟩
      match ← call f (.object r) args with
      | .object other => pure (.object other)
      | _ => pure (.object r)
    else raise "TypeError" "not a constructor"
  | none => raise "TypeError" "not a constructor"

/-- Calls a method of a stored value. -/
def onStored (name method : String) (args : List Literal) : Machine Value := do
  let v ← storedValue name
  callMethod call v method (← buildAll args)

def StreamStep.run (pending : Option PendingWrite) : StreamStep → Machine Value
  | .create stream type => do
    let constructor ← getProperty (← callRequire call "stream") type
    let v ← construct call constructor []
    storeValue stream v
    pure v
  | .push stream chunk => onStored call stream "push" [chunk]
  | .write stream chunk => onStored call stream "write" [chunk]
  | .finish stream => onStored call stream "end" []
  | .listen stream method event listener => onStored call stream method [event, listener]
  | .follow stream method event label times steps failure => do
    let counter ← modifyGet fun w => (w.nextCounter, { w with nextCounter := w.nextCounter + 1 })
    let f ← makeFunction "" (.follower counter label times steps failure)
    callMethod call (← storedValue stream) method [← event.build, .object f]
  | .consume stream consumer => do
    assign (← objectArg (← storedValue stream)) "_write" (← consumer.build)
    pure .undefined
  | .consumeBy stream steps => do
    let f ← makeFunction "" (.consumer stream steps)
    assign (← objectArg (← storedValue stream)) "_write" (.object f)
    pure .undefined
  | .callKept name args => do
    call (((← get).kept.lookup name).getD .undefined) .undefined (← buildAll args)
  | .forward =>
    match pending with
    | some w => callMethod call w.stream "push" [w.chunk]
    | none => pure .undefined
  | .callback args =>
    match pending with
    | some w => do call w.callback .undefined (← buildAll args)
    | none => pure .undefined
  | .defer name =>
    match pending with
    | some w => do
      modify fun world =>
        { world with kept := (name, w.callback) :: world.kept.filter (·.1 ≠ name) }
      pure .undefined
    | none => pure .undefined
  | .throw message => raise "Error" message

def runStreamSteps (pending : Option PendingWrite) : List StreamStep → Machine Unit
  | [] => pure ()
  | step :: rest => do
    let _ ← step.run call pending
    runStreamSteps pending rest

/-! ## The functions of programs -/

/-- Throws an error if there is a message for it. -/
def failWith (failure : Option String) : Machine Unit :=
  match failure with
  | some message => atPlace ⟨"<probe>", 1, "<anonymous>"⟩ (raise "Error" message)
  | none => pure ()

/-- Calls a callback a number of times. -/
def callRepeatedly (callback : Value) (args : List Value) : Nat → Machine Unit
  | 0 => pure ()
  | times + 1 => do
    let _ ← call callback .undefined args
    callRepeatedly callback args times

def Formatter.run (args : List Value) : Formatter → Machine Value
  | .results => do
    match ← stringify call (argAt args 0) with
    | some json => pure (.text json)
    | none => pure .undefined
  | .arguments => do
    let others ← makeList [argAt args 1, argAt args 2, argAt args 3]
    violationText call "format" (← makeList []) ((← stringify call others).getD "undefined") 0
  | .throws message => raise "Error" message
  | .constant v => v.build

/-- Resolves a promise with the bundle's formatted results. -/
def formatResults (bundle : Value) (promise : Ref) (output : Value) : Machine Unit := do
  let results ← getProperty output "results"
  let options ← makeRecord [("failSeverity", .ofInt (-1))]
  let ruleset ← getProperty output "resolvedRuleset"
  let text ← callMethod call bundle "formatOutput" [results, .text "json", .object options, ruleset]
  settleInRound promise 0 true text

/-- The reason of a promise that has been rejected, or its value. -/
def settledValue (promise : Ref) : Machine Value := do
  match ← promiseState? promise with
  | some (.fulfilled v) => pure v
  | some (.rejected reason) => throwValue reason
  | _ => pure .undefined

/-- A finding as a violation of a document. -/
def findingObject (source : String) (f : Lint.Sample.Finding) : Machine Value := do
  let index := f.index.map fun i => Value.ofNat i
  .object <$> makeRecord
    [("code", .text f.rule.code), ("path", ← makeList (.text f.section_ :: index.toList)),
      ("message", .text f.message), ("severity", .ofNat f.rule.severity),
      ("source", .text source), ("range", ← rangeObject f.line f.first f.last)]

/-- Reads every document, then checks each of them. -/
def sampleChecks (rulesetPath workingDirectory : String) (files ruleset : Value) :
    Machine Value := do
  let rules := Lint.Sample.rulesOf (← toText call ruleset)
  let _ ← callMethod call (← globalValue "console") "debug"
    [.text "loaded %d rule(s) from %s", .ofNat rules.length, .text rulesetPath]
  let documents ← elementsOf call (← globalValue documentsName)
  let reads ← documents.mapM fun document => do
    let source := Path.resolve [workingDirectory, ← toText call document]
    pure (source, ← readPromised call files source)
  let findings ← reads.mapM fun (source, promise) => do
    let text ← toText call (← settledValue promise)
    (Lint.Sample.findings rules text).mapM (findingObject source)
  let ruleObjects ← rules.mapM fun rule => do
    .object <$> makeRecord [("code", .text rule.code), ("severity", .ofNat rule.severity)]
  let resolved ← makeRecord [("rules", ← makeList ruleObjects)]
  .object <$> makeRecord
    [("results", ← makeList findings.flatten), ("resolvedRuleset", .object resolved)]

/-! ## Calls -/

/-- What a function does when it is called. -/
def perform (f : Function) (this : Value) (args : List Value) : Machine Value := do
  match f with
  | .intrinsic f => runIntrinsic call f this args
  | .path f => Builtin.runPath f args
  | .util f => Builtin.runUtil call f args
  | .file f files => Builtin.runFile call f files args
  | .url f => Builtin.runUrl call f this args
  | .buffer f => Builtin.runBuffer call f this args
  | .stream f channel => Builtin.runStream call f channel this args
  | .process f workingDirectory => Builtin.runProcess call f workingDirectory args
  | .system f => Builtin.runSystem f
  | .emitter f => pure (Builtin.runEmitter f this)
  | .console level => Builtin.writeLog call level args
  | .require => requireModule call (argAt args 0)
  | .createRequire => pure (.object Place.requireFunction)
  | .promisified wrapped => Builtin.callPromised call wrapped this args
  | .promisedResult promise =>
    let error := argAt args 0
    if error.isTruthy then settleInRound promise 0 false error
    else settleInRound promise 0 true (argAt args 1)
    pure .undefined
  | .settle promise round fulfils =>
    settleInRound promise round fulfils (argAt args 0)
    pure .undefined
  | .answer value => pure (.boolean value)
  | .idle => pure .undefined
  | .probe label failure =>
    logCall (.text label :: args)
    failWith failure
    pure .undefined
  | .callbackStyle error value times =>
    logCall (.text "node" :: args.dropLast)
    callRepeatedly call (args.getLast?.getD .undefined) [error, value] times
    pure .undefined
  | .unprintable message =>
    failWith (some message)
    pure .undefined
  | .follower counter label times steps failure =>
    logCall (.text label :: args)
    if (← countRun ("listener " ++ toString counter)) < times then
      runStreamSteps call none steps
      failWith failure
    pure .undefined
  | .consumer stream steps =>
    let callback := argAt args 2
    let same := Value.same this (← storedValue stream)
    logCall [.text "_write", argAt args 0, argAt args 1, .text ((← heap).typeWord callback),
      .boolean same]
    runStreamSteps call (some ⟨this, argAt args 0, callback⟩) steps
    pure .undefined
  | .formatter formatter => formatter.run call args
  | .formatResults bundle promise =>
    formatResults call bundle promise (argAt args 0)
    pure .undefined
  | .sampleChecks rulesetPath workingDirectory files =>
    sampleChecks call rulesetPath workingDirectory files (argAt args 0)

/-- Calls a function, with at most `depth` calls nested in one another. -/
def invoke : (depth : Nat) → Call
  | 0 => fun _ _ _ => overflow
  | depth + 1 => fun f this args => do
    match (← heap).function? f with
    | some g => perform (invoke depth) g this args
    | none => raise "TypeError" "not a function"

/-- How many calls may be nested in one another. -/
def maxDepth : Nat := 500

/-- The call of the engine. -/
def engineCall : Call := invoke maxDepth

end GuestLint.Guest
