import GuestLint.Guest.Build
import GuestLint.Guest.Capture
import GuestLint.Guest.Stringify
import GuestLint.Proofs.Guest.Machine

/-!
# What computations do to the registry

Hardly any computation touches the registry of modules. A property of the registry that the few
exceptions keep is kept by everything that guests and builtin modules do, and by all that they
call. `Keeps` says so of one computation. It is a class, so that for a computation that is put
together from others the instances for those are found by themselves.

* `Keeps.bind`, `Keeps.tryCatch` and their like: the ways of putting computations together.
* The instances: the operations on objects, conversions, literals, promises and jobs.
-/
namespace GuestLint.Guest

/-- However the computation ends, the registry keeps the property. -/
class Keeps (J : Registry → Prop) {α : Type} (x : Machine α) : Prop where
  keeps : ∀ w, J w.registry → J (run w x).2.registry

variable {J : Registry → Prop} {α β γ : Type}

/-! ## Putting computations together -/

namespace Keeps

instance pure (a : α) : Keeps J (Pure.pure a : Machine α) := ⟨fun _ h => h⟩

instance throw (e : Stop) : Keeps J (MonadExcept.throw e : Machine α) := ⟨fun _ h => h⟩

instance throwThe (e : Stop) : Keeps J (MonadExceptOf.throw e : Machine α) := ⟨fun _ h => h⟩

instance bind {x : Machine α} {f : α → Machine β} [hx : Keeps J x] [hf : ∀ a, Keeps J (f a)] :
    Keeps J (x >>= f) := by
  refine ⟨fun w h => ?_⟩
  have h' := hx.keeps w h
  rw [run_bind]
  cases hrun : run w x with
  | mk r w' =>
    rw [hrun] at h'
    cases r with
    | ok a => exact (hf a).keeps w' h'
    | error e => exact h'

instance bindLeft {x : Machine α} {f : α → Machine β} [Keeps J x] [∀ a, Keeps J (f a)] :
    Keeps J (f =<< x) := bind

instance map {x : Machine α} {f : α → β} [Keeps J x] : Keeps J (f <$> x) := by
  rw [← bind_pure_comp]
  infer_instance

instance tryCatch {x : Machine α} {f : Stop → Machine α} [hx : Keeps J x]
    [hf : ∀ e, Keeps J (f e)] : Keeps J (MonadExcept.tryCatch x f) := by
  refine ⟨fun w h => ?_⟩
  have h' := hx.keeps w h
  show J (run w (tryCatchThe Stop x f)).2.registry
  rw [run_tryCatch]
  cases hrun : run w x with
  | mk r w' =>
    rw [hrun] at h'
    cases r with
    | ok a => exact h'
    | error e => exact (hf e).keeps w' h'

instance tryCatchThe {x : Machine α} {f : Stop → Machine α} [Keeps J x] [∀ e, Keeps J (f e)] :
    Keeps J (tryCatchThe Stop x f) := tryCatch

instance ite {c : Prop} [Decidable c] {x y : Machine α} [Keeps J x] [Keeps J y] :
    Keeps J (if c then x else y) := by
  split <;> infer_instance

instance forIn {xs : List α} {b : β} {f : α → β → Machine (ForInStep β)}
    [hf : ∀ a b, Keeps J (f a b)] : Keeps J (ForIn.forIn xs b f) := by
  induction xs generalizing b with
  | nil => exact pure b
  | cons x xs ih =>
    rw [List.forIn_cons]
    refine @bind _ _ _ _ _ (hf x b) fun s => ?_
    cases s with
    | done b => exact pure b
    | yield b => exact ih

instance mapM {f : α → Machine β} [hf : ∀ a, Keeps J (f a)] (xs : List α) :
    Keeps J (xs.mapM f) := by
  induction xs with
  | nil => exact pure []
  | cons x xs ih =>
    rw [List.mapM_cons]
    infer_instance

instance optionMapM {f : α → Machine β} [hf : ∀ a, Keeps J (f a)] (o : Option α) :
    Keeps J (o.mapM f) := by
  cases o with
  | none => exact pure none
  | some a => exact @map _ _ _ _ _ (hf a)

/-- One computation after another, when the second one has to be taken apart. -/
theorem andThen {x : Machine α} {f : α → Machine β} (hx : Keeps J x) (hf : ∀ a, Keeps J (f a)) :
    Keeps J (x >>= f) := inferInstance

/-- What is known of the registry is known of the world that is read. -/
theorem get_bind {f : World → Machine α}
    (hf : ∀ w, J w.registry → Keeps J (f w)) : Keeps J (get >>= f) :=
  ⟨fun w h => (hf w h).keeps w h⟩

/-- A change of another part of the world. -/
theorem modify {f : World → World} (hf : ∀ w, (f w).registry = w.registry) :
    Keeps J (modify f : Machine Unit) :=
  ⟨fun w h => by rw [run_modify, hf]; exact h⟩

end Keeps

/-! ## The operations on objects -/

instance : Keeps J (get : Machine World) := ⟨fun _ h => h⟩

instance : Keeps J heap := ⟨fun _ h => h⟩

instance (o : Object) : Keeps J (allocate o) := ⟨fun _ h => h⟩

instance (r : Ref) (f : Object → Object) : Keeps J (modifyObject r f) := ⟨fun _ h => h⟩

instance (v : Value) : Keeps J (throwValue v : Machine α) := ⟨fun _ h => h⟩

instance : Keeps J (runForever : Machine α) := ⟨fun _ h => h⟩

instance {x : Machine α} {f : Value → Machine α} [Keeps J x] [∀ v, Keeps J (f v)] :
    Keeps J (rescue x f) := by
  have hcaught : ∀ stop : Stop, Keeps J (match stop with
      | .thrown v => f v
      | stop => throw stop) := fun stop => by
    cases stop <;> infer_instance
  exact Keeps.tryCatch

instance {x : Machine α} [Keeps J x] : Keeps J (attempt x) := by
  unfold attempt
  infer_instance

instance (r : Ref) (name : String) (v : Value) : Keeps J (assign r name v) := by
  unfold assign
  infer_instance

instance (r : Ref) (name : String) (v : Value) : Keeps J (assignHidden r name v) := by
  unfold assignHidden
  infer_instance

instance (r : Ref) (name : String) : Keeps J (deleteProperty r name) := by
  unfold deleteProperty
  infer_instance

instance (fields : List (String × Value)) : Keeps J (makeRecord fields) := by
  unfold makeRecord
  infer_instance

instance (items : List Value) : Keeps J (makeList items) := by
  unfold makeList
  infer_instance

instance (name : String) (f : Function) : Keeps J (makeFunction name f) := by
  unfold makeFunction
  infer_instance

instance (name : String) (f : Function) (parent : Ref) :
    Keeps J (makeConstructor name f parent) := by
  unfold makeConstructor
  infer_instance

instance : Keeps J makeParent := by
  unfold makeParent
  infer_instance

instance (name message : String) : Keeps J (makeError name message) := by
  unfold makeError
  infer_instance

instance (name message : String) : Keeps J (raise name message : Machine α) := by
  unfold raise
  infer_instance

instance (frame : Frame) {x : Machine α} [Keeps J x] : Keeps J (atPlace frame x) := by
  have henter : Keeps J (modify fun w => { w with frames := frame :: w.frames } : Machine Unit) :=
    .modify fun _ => rfl
  have hleave : ∀ frames, Keeps J (modify fun w => { w with frames := frames } : Machine Unit) :=
    fun _ => .modify fun _ => rfl
  unfold atPlace
  dsimp only
  infer_instance

instance (v : Value) (name : String) : Keeps J (getProperty v name) := by
  unfold getProperty
  split <;> infer_instance

instance (level : LogLevel) (text : String) (stream : Option String) :
    Keeps J (log level text stream) := .modify fun _ => rfl

instance (answer : Virtual.Answer α) : Keeps J (lookedUp answer) := by
  unfold lookedUp
  infer_instance

instance (args : List Value) : Keeps J (logCall args) := .modify fun _ => rfl

instance (text : String) : Keeps J (noteText text) := .modify fun _ => rfl

instance (key : String) : Keeps J (countRun key) := ⟨fun _ h => h⟩

instance (name : String) (v : Value) : Keeps J (storeValue name v) := .modify fun _ => rfl

instance (name : String) : Keeps J (storedValue name) := by
  unfold storedValue
  infer_instance

section
variable {call : Call} [∀ f this args, Keeps J (call f this args)]

instance (v : Value) (name : String) (args : List Value) :
    Keeps J (callMethod call v name args) := by
  unfold callMethod
  infer_instance

/-! ## Conversions and arguments -/

instance (v : Value) (names : List String) : Keeps J (primitiveBy call v names) := by
  induction names with
  | nil => exact inferInstanceAs (Keeps J (raise _ _))
  | cons name rest ih =>
    unfold primitiveBy
    have hanswer : ∀ answer : Value, Keeps J (match answer with
        | .object _ => primitiveBy call v rest
        | primitive => pure primitive) := fun answer => by
      cases answer <;> infer_instance
    infer_instance

instance (v : Value) : Keeps J (toText call v) := by
  unfold toText
  dsimp only
  split <;>
  · refine Keeps.andThen inferInstance fun primitive => ?_
    cases primitive <;> infer_instance

instance (v : Value) : Keeps J (shownText call v) := by
  unfold shownText
  split <;> infer_instance

instance (v : Value) : Keeps J (toNumber call v) := by
  unfold toNumber
  dsimp only
  split <;>
  · refine Keeps.andThen inferInstance fun primitive => ?_
    cases primitive <;> infer_instance

instance (v : Value) : Keeps J (toInteger call v) := by
  unfold toInteger
  infer_instance

instance (v : Value) : Keeps J (lengthOf call v) := by
  unfold lengthOf
  infer_instance

instance (v : Value) : Keeps J (elementsOf call v) := by
  unfold elementsOf
  refine Keeps.andThen inferInstance fun h => ?_
  split <;> infer_instance

instance (v : Value) (separator : String) : Keeps J (joinElements call v separator) := by
  unfold joinElements
  infer_instance

instance (v : Value) : Keeps J (errorText call v) := by
  have hpart : ∀ name missing : String, Keeps J (do
      match ← getProperty v name with
      | .undefined => pure missing
      | value => toText call value : Machine String) := fun name missing => by
    refine Keeps.andThen inferInstance fun part => ?_
    cases part <;> infer_instance
  unfold errorText
  dsimp only
  infer_instance

end

instance (required : Nat) (args : List Value) : Keeps J (requireArgs required args) := by
  unfold requireArgs
  infer_instance

instance (v : Value) (wanted : String) : Keeps J (refuse v wanted : Machine α) := by
  unfold refuse
  infer_instance

instance (v : Value) : Keeps J (textArg v) := by
  unfold textArg
  split <;> infer_instance

instance (v : Value) : Keeps J (functionArg v) := by
  unfold functionArg
  infer_instance

instance (v : Value) : Keeps J (objectArg v) := by
  unfold objectArg
  split <;> infer_instance

/-! ## Promises and jobs -/

instance (job : Job) : Keeps J (enqueue job) := .modify fun _ => rfl

instance : Keeps J makePromise := by
  unfold makePromise
  infer_instance

instance (r : Ref) : Keeps J (promiseState? r) := by
  unfold promiseState?
  refine Keeps.andThen inferInstance fun h => ?_
  split <;> infer_instance

instance (r : Ref) (state : PromiseState) : Keeps J (setPromise r state) := by
  unfold setPromise
  infer_instance

instance (r : Ref) (value : Value) (fulfils : Bool) : Keeps J (settle r value fulfils) := by
  unfold settle
  refine Keeps.andThen inferInstance fun state => ?_
  split <;> infer_instance

instance (r : Ref) (reason : Value) : Keeps J (reject r reason) := by
  unfold reject
  infer_instance

instance (r : Ref) (value : Value) : Keeps J (resolve r value) := by
  have hbound : ∀ method, Keeps J (do
      match ← promiseState? r with
      | some (.pending round reactions) =>
        setPromise r (.pending (round + 1) reactions)
        enqueue (.adopt r (round + 1) value method)
      | _ => pure ()) := fun method => by
    refine Keeps.andThen inferInstance fun state => ?_
    split <;> infer_instance
  unfold resolve
  split
  · refine Keeps.andThen inferInstance fun method => ?_
    split <;> infer_instance
  · infer_instance

instance (r : Ref) (round : Nat) (fulfils : Bool) (value : Value) :
    Keeps J (settleInRound r round fulfils value) := by
  unfold settleInRound
  refine Keeps.andThen inferInstance fun state => ?_
  split <;> infer_instance

instance (r : Ref) (onFulfilled onRejected : Value) :
    Keeps J (addReaction r onFulfilled onRejected) := by
  unfold addReaction
  dsimp only
  refine Keeps.andThen inferInstance fun derived => Keeps.andThen inferInstance fun state => ?_
  split <;> infer_instance

section
variable {call : Call} [∀ f this args, Keeps J (call f this args)]

instance (job : Job) : Keeps J (performJob call job) := by
  cases job with
  | react handler argument fulfils derived =>
    have hend : ∀ result : Except Value Value, Keeps J (match result with
        | .ok value => resolve derived value
        | .error e => reject derived e) := fun result => by cases result <;> infer_instance
    unfold performJob
    infer_instance
  | adopt promise round thenable method =>
    have hend : ∀ result : Except Value Value, Keeps J (match result with
        | .ok _ => pure ()
        | .error e => settleInRound promise round false e) := fun result => by
      cases result <;> infer_instance
    unfold performJob
    infer_instance
  | invoke f args =>
    unfold performJob
    infer_instance
  | settleAfter turns promise value fulfils =>
    cases turns <;>
    · unfold performJob
      infer_instance
  | spin =>
    unfold performJob
    infer_instance

instance : Keeps J (runJob call) := by
  unfold runJob
  refine Keeps.andThen inferInstance fun w => ?_
  have hleave : ∀ rest, Keeps J (modify fun w => { w with jobs := rest } : Machine Unit) :=
    fun _ => .modify fun _ => rfl
  split <;> infer_instance

/-! ## JSON, literals and exceptions -/

instance : Keeps J (overflow : Machine α) := by
  unfold overflow
  infer_instance

instance (key : String) (v : Value) : Keeps J (standIn call key v) := by
  unfold standIn
  split <;> infer_instance

instance (fuel : Nat) (path : List Ref) (key : String) (v : Value) :
    Keeps J (jsonChars call fuel path key v) := by
  induction fuel generalizing path key v with
  | zero =>
    unfold jsonChars
    infer_instance
  | succ fuel ih =>
    unfold jsonChars
    refine Keeps.andThen inferInstance fun v => ?_
    have hlist : ∀ (r : Ref) (parts : Option (List Value)), Keeps J (match parts with
        | some items => do
          let texts ← items.zipIdx.mapM fun (item, i) => do
            let text ← jsonChars call fuel (r :: path) (String.ofList (Text.digits 10 i)) item
            pure (text.getD "null".toList)
          pure (some (bracketed '[' ']' texts))
        | none => do
          let texts ← ((← heap).at_ r).ownNames.mapM fun name => do
            let text ← jsonChars call fuel (r :: path) name (← getProperty (.object r) name)
            pure (text.map fun t => Json.quote name ++ ':' :: t)
          pure (some (bracketed Json.openBrace Json.closeBrace (texts.filterMap id)))) :=
      fun r parts => by cases parts <;> infer_instance
    cases v <;> infer_instance

instance (v : Value) : Keeps J (stringify call v) := by
  unfold stringify
  infer_instance

end

instance (content : Bytes) (parent : Ref) : Keeps J (makeBytes content parent) := by
  unfold makeBytes
  infer_instance

instance (name : String) : Keeps J (makeIdle name) := by
  unfold makeIdle
  infer_instance

mutual

theorem keeps_build : ∀ l : Literal, Keeps J l.build
  | .undefined | .null | .boolean _ | .number _ | .big _ | .text _ | .function _ | .probe _ _
  | .stored _ | .bytes _ | .byteStore _ | .buffer _ | .circular | .unprintable _ | .bare
  | .global => by unfold Literal.build; infer_instance
  | .symbol _ => ⟨fun _ h => h⟩
  | .list items => by
    have := keeps_buildAll items
    unfold Literal.build
    infer_instance
  | .record fields => by
    have := fun r => keeps_setFields r fields
    unfold Literal.build
    infer_instance
  | .error message name stack properties => by
    have := keeps_build stack
    have := fun r => keeps_setFields r properties
    unfold Literal.build
    refine Keeps.andThen inferInstance fun r => ?_
    cases name <;> infer_instance
  | .callbackStyle error value times => by
    have := keeps_build error
    have := keeps_build value
    unfold Literal.build
    infer_instance

theorem keeps_buildAll : ∀ items : List Literal, Keeps J (buildAll items)
  | [] => by unfold buildAll; infer_instance
  | item :: rest => by
    have := keeps_build item
    have := keeps_buildAll rest
    unfold buildAll
    infer_instance

theorem keeps_setFields (r : Ref) : ∀ fields : List (String × Literal), Keeps J (setFields r fields)
  | [] => by unfold setFields; infer_instance
  | (name, item) :: rest => by
    have := keeps_build item
    have := keeps_setFields r rest
    unfold setFields
    infer_instance

end

instance (l : Literal) : Keeps J l.build := keeps_build l

instance (items : List Literal) : Keeps J (buildAll items) := keeps_buildAll items

instance (s : Settling) : Keeps J s.build := by
  cases s <;>
  · unfold Settling.build
    infer_instance

instance (v : Value) (name : String) : Keeps J (objectText? v name) := by
  unfold objectText?
  split
  · refine Keeps.andThen inferInstance fun text => ?_
    split <;> infer_instance
  · infer_instance

section
variable {call : Call} [∀ f this args, Keeps J (call f this args)]

instance (thrown : Value) : Keeps J (capture call thrown) := by
  unfold capture
  refine Keeps.andThen inferInstance fun text => ?_
  split <;> infer_instance

instance (v : Value) : Keeps J (describe call v) := by
  unfold describe
  refine Keeps.andThen inferInstance fun text => ?_
  split <;> infer_instance

end
end GuestLint.Guest
