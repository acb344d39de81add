import GuestLint.Guest.Engine
import GuestLint.Proofs.Builtin.Registry

/-!
# What the engine records

Running a module that has a source records the text under the module's name, and installing a
builtin module registers it. A property of the registry that these two keep is kept by every call
of the engine, at every depth of nesting.

* `Records`, `Admits`: the two changes of the registry that a run makes, and that calls make only
  the first of them.
* `keeps_invoke`: a call keeps what is admitted.
-/
namespace GuestLint.Guest

/-- The change that running guests make to the registry keeps the property. -/
class Records (J : Registry → Prop) : Prop where
  /-- The text that is recorded is the one that the loader gave, however long ago. -/
  record : ∀ {g g' : Registry} {name : String} {content : Bytes}, J g → J g' →
    g.loader name = .ok content → J (g'.recordSource name (Utf8.decodeLossy content))

/-- Installing builtin modules keeps the property as well. -/
class Admits (J : Registry → Prop) : Prop extends Records J where
  register : ∀ {g : Registry} (name : String) (b : Builtin), J g →
    J (g.registerBuiltin name (.builtin b))

variable {J : Registry → Prop}

theorem keeps_modifyRegistry {f : Registry → Registry} (hf : ∀ g, J g → J (f g)) :
    Keeps J (modifyRegistry f) :=
  ⟨fun w h => hf w.registry h⟩

/-! ## Steps of modules -/

instance (line character : Nat) : Keeps J (positionObject line character) := by
  unfold positionObject
  infer_instance

instance (line first last : Nat) : Keeps J (rangeObject line first last) := by
  unfold rangeObject
  infer_instance

instance (name : String) : Keeps J (globalValue name) := by
  unfold globalValue
  infer_instance

section
variable {call : Call} [∀ f this args, Keeps J (call f this args)]

instance (name : String) : Keeps J (callRequire call name) := by
  unfold callRequire
  infer_instance

instance (code : String) (path : Value) (message : String) (severity : Nat) :
    Keeps J (violationText call code path message severity) := by
  unfold violationText
  refine Keeps.andThen inferInstance fun range => Keeps.andThen inferInstance fun violation => ?_
  refine Keeps.andThen inferInstance fun list => Keeps.andThen inferInstance fun json => ?_
  cases json <;> infer_instance

instance : Keeps J (bundleResults call) := by
  unfold bundleResults
  refine Keeps.andThen inferInstance fun bundle => Keeps.andThen inferInstance fun promise => ?_
  refine Keeps.andThen inferInstance fun outcome => ?_
  cases outcome <;> infer_instance

instance (completion : Completion) : Keeps J (completion.run call) := by
  cases completion <;>
  · unfold Completion.run
    infer_instance

instance (scope : ModuleScope) : Keeps J (scope.description call) := by
  unfold ModuleScope.description
  dsimp only
  infer_instance

instance (scope : ModuleScope) (key : String) (v : Value) : Keeps J (scope.export key v) := by
  unfold ModuleScope.export
  infer_instance

instance (files : Value) (path : String) : Keeps J (readPromised call files path) := by
  unfold readPromised
  infer_instance

instance : Keeps J (startSampleLinter call) := by
  unfold startSampleLinter
  refine Keeps.andThen inferInstance fun files => Keeps.andThen inferInstance fun _ => ?_
  refine Keeps.andThen inferInstance fun process => Keeps.andThen inferInstance fun answer => ?_
  infer_instance

instance (scope : ModuleScope) (step : Step) : Keeps J (step.run call scope) := by
  cases step with
  | require name key =>
    unfold Step.run
    cases key <;> infer_instance
  | tryRequire name =>
    unfold Step.run
    refine Keeps.andThen inferInstance fun outcome => ?_
    cases outcome <;> infer_instance
  | _ =>
    unfold Step.run
    infer_instance

instance (scope : ModuleScope) (file : Option String) (line : Nat) (value : Value)
    (body : Script) : Keeps J (runSteps call scope file line value body) := by
  induction body generalizing line value with
  | nil => exact .pure _
  | cons step rest ih =>
    unfold runSteps
    cases file <;> infer_instance

instance (file : String) (body : Script) : Keeps J (runDriverScript call file body) := by
  unfold runDriverScript
  infer_instance

/-! ## Loading modules -/

instance (name : String) : Keeps J (raiseMissing name) := by
  unfold raiseMissing
  infer_instance

/-- Running a text keeps what recording it keeps. -/
theorem keeps_runSource {name text : String}
    (hrecord : ∀ g, J g → J (g.recordSource name text)) (entry : Ref) (exports : Value) :
    Keeps J (runSource call name text entry exports) := by
  unfold runSource
  refine Keeps.andThen (keeps_modifyRegistry hrecord) fun _ => ?_
  refine Keeps.andThen inferInstance fun w => ?_
  cases w.surroundings.compile text <;> infer_instance

variable [Records J]

instance (id : String) (entry : Ref) : Keeps J (runModule call id entry) := by
  unfold runModule
  refine Keeps.get_bind fun w hw => Keeps.andThen inferInstance fun exports => ?_
  split
  · infer_instance
  · infer_instance
  · split
    · rename_i content hcontent
      exact keeps_runSource (fun g hg => Records.record hw hg hcontent) entry exports
    · infer_instance

/-- A require changes the registry only through the body that it runs. -/
theorem keeps_require (name : String) : Keeps J ((moduleCache call).require Stop name) := by
  have hresolve : Keeps J ((moduleCache call).resolve name) := by
    unfold moduleCache
    infer_instance
  have hlookup : ∀ id, Keeps J ((moduleCache call).lookup id) := by
    intro id
    unfold moduleCache
    refine Keeps.andThen inferInstance fun h => ?_
    split <;> infer_instance
  have hload : ∀ id, Keeps J ((moduleCache call).load Stop id) := by
    intro id
    unfold Modules.Cache.load moduleCache
    infer_instance
  have hexports : ∀ entry, Keeps J ((moduleCache call).exports entry) := by
    intro entry
    unfold moduleCache
    infer_instance
  unfold Modules.Cache.require
  refine Keeps.andThen hresolve fun id => Keeps.andThen (hlookup id) fun entry => ?_
  cases entry with
  | some entry => exact hexports entry
  | none => exact hload id

instance (name : Value) : Keeps J (requireModule call name) := by
  have hrequire := @keeps_require J call _ _
  unfold requireModule
  infer_instance

end

/-! ## What the language provides -/

instance (v : Value) : Keeps J (functionText v) := by
  unfold functionText
  refine Keeps.andThen inferInstance fun name => ?_
  split <;> infer_instance

section
variable {call : Call} [∀ f this args, Keeps J (call f this args)]

instance (f : Intrinsic) (this : Value) (args : List Value) :
    Keeps J (runIntrinsic call f this args) := by
  unfold runIntrinsic
  cases f with
  | listJoin => cases argAt args 0 <;> infer_instance
  | makeError name => cases argAt args 0 <;> infer_instance
  | _ => infer_instance

instance (f : Value) (args : List Value) : Keeps J (construct call f args) := by
  have hanswer : ∀ (r : Ref) (answer : Value), Keeps J (match answer with
      | .object other => pure (.object other)
      | _ => pure (.object r) : Machine Value) := by
    intro r answer
    cases answer <;> infer_instance
  unfold construct
  refine Keeps.andThen inferInstance fun h => ?_
  split
  · infer_instance
  · split
    · refine Keeps.andThen inferInstance fun prototype => ?_
      cases prototype <;> infer_instance
    · infer_instance
  · infer_instance

/-! ## Streams in programs -/

instance (name method : String) (args : List Literal) :
    Keeps J (onStored call name method args) := by
  unfold onStored
  infer_instance

instance (pending : Option PendingWrite) (step : StreamStep) :
    Keeps J (step.run call pending) := by
  cases step with
  | forward | callback args =>
    unfold StreamStep.run
    cases pending <;> infer_instance
  | defer name =>
    unfold StreamStep.run
    cases pending with
    | some write => exact Keeps.andThen (.modify fun _ => rfl) fun _ => inferInstance
    | none => infer_instance
  | follow stream method event label times steps failure =>
    have hnew : Keeps J (modifyGet fun w =>
        (w.nextCounter, { w with nextCounter := w.nextCounter + 1 }) : Machine Nat) :=
      ⟨fun _ h => h⟩
    unfold StreamStep.run
    infer_instance
  | _ =>
    unfold StreamStep.run
    infer_instance

instance (pending : Option PendingWrite) (steps : List StreamStep) :
    Keeps J (runStreamSteps call pending steps) := by
  induction steps <;>
  · unfold runStreamSteps
    infer_instance

/-! ## The functions of programs -/

instance (failure : Option String) : Keeps J (failWith failure) := by
  unfold failWith
  cases failure <;> infer_instance

instance (callback : Value) (args : List Value) (times : Nat) :
    Keeps J (callRepeatedly call callback args times) := by
  induction times <;>
  · unfold callRepeatedly
    infer_instance

instance (args : List Value) (formatter : Formatter) : Keeps J (formatter.run call args) := by
  cases formatter with
  | results =>
    unfold Formatter.run
    refine Keeps.andThen inferInstance fun json => ?_
    cases json <;> infer_instance
  | _ =>
    unfold Formatter.run
    infer_instance

instance (bundle : Value) (promise : Ref) (output : Value) :
    Keeps J (formatResults call bundle promise output) := by
  unfold formatResults
  infer_instance

instance (promise : Ref) : Keeps J (settledValue promise) := by
  unfold settledValue
  refine Keeps.andThen inferInstance fun state => ?_
  split <;> infer_instance

instance (source : String) (f : Lint.Sample.Finding) : Keeps J (findingObject source f) := by
  unfold findingObject
  infer_instance

instance (rulesetPath workingDirectory : String) (files ruleset : Value) :
    Keeps J (sampleChecks call rulesetPath workingDirectory files ruleset) := by
  unfold sampleChecks
  refine Keeps.andThen inferInstance fun text => Keeps.andThen inferInstance fun console => ?_
  refine Keeps.andThen inferInstance fun _ => Keeps.andThen inferInstance fun documents => ?_
  refine Keeps.andThen inferInstance fun elements => Keeps.andThen inferInstance fun reads => ?_
  refine Keeps.andThen inferInstance fun findings => Keeps.andThen inferInstance fun rules => ?_
  infer_instance

/-! ## Calls -/

variable [Records J]

instance (f : Function) (this : Value) (args : List Value) :
    Keeps J (perform call f this args) := by
  cases f <;>
  · unfold perform
    infer_instance

end

/-- A call keeps what is admitted: each one does by the calls that it nests. -/
theorem keeps_invoke [Records J] (depth : Nat) (f this : Value) (args : List Value) :
    Keeps J (invoke depth f this args) := by
  induction depth generalizing f this args with
  | zero => exact inferInstanceAs (Keeps J overflow)
  | succ depth ih =>
    unfold invoke
    refine Keeps.andThen inferInstance fun h => ?_
    split <;> infer_instance

instance [Records J] (f this : Value) (args : List Value) : Keeps J (engineCall f this args) :=
  keeps_invoke maxDepth f this args

/-! ## Installing builtin modules -/

/-- Installing a module keeps what registering it keeps. -/
theorem keeps_installBuiltin [Records J] {name : String} {b : Builtin}
    (hregister : ∀ g, J g → J (g.registerBuiltin name (.builtin b))) :
    Keeps J (installBuiltin engineCall name b) := by
  unfold installBuiltin
  refine Keeps.andThen (keeps_modifyRegistry hregister) fun _ => ?_
  split
  · infer_instance
  · refine Keeps.andThen inferInstance fun exports => ?_
    split <;> infer_instance

instance [Admits J] (name : String) (b : Builtin) : Keeps J (installBuiltin engineCall name b) :=
  keeps_installBuiltin fun _ => Admits.register name b

instance : Keeps J enableRequire := by
  unfold enableRequire
  infer_instance

end GuestLint.Guest
