import GuestLint.Lint.Run
import GuestLint.Proofs.Guest.Recording

/-!
# Stages of a lint run

A run goes through stages, each of them a computation of the guest, and ends in an error as soon as
one of them does. An exception is captured when it ends a stage, and no code of the guest runs after
that. So what is known of the registry at that moment is known of the sources that the capture
looks at.

* The instances: what the stages do keeps what the guest keeps.
* `run_startEngine_starts`: the ways in which the engine starts or does not.
* `Captures`: what is said of one stage; it is closed under going through stages.
* `captures_runConfig`: the whole run.
-/
namespace GuestLint.Lint

open Diagnostics (Captured)
open Guest

variable {α β : Type} {J : Registry → Prop}

/-! ## What the stages do -/

instance (workingDirectory : String) (documents : List String) (ruleset : String) :
    Keeps J (bindWork workingDirectory documents ruleset) := by
  unfold bindWork
  infer_instance

instance (v : Value) : Keeps J (promise? v) := by
  unfold promise?
  cases v <;> infer_instance

instance (promise : Ref) : Keeps J (observePromise promise) := by
  unfold observePromise
  refine Keeps.andThen inferInstance fun state => ?_
  split <;> infer_instance

theorem keeps_wait {call : Call} [∀ f this args, Keeps J (call f this args)]
    (answers : Nat → Except Halt Unit) (promise : Ref) (fuel looks : Nat) :
    Keeps J (((promiseWaiting call answers promise).wait fuel).run looks) := by
  induction fuel generalizing looks with
  | zero => exact .pure _
  | succ fuel ih =>
    have hobserve : Keeps J ((promiseWaiting call answers promise).observe.run looks) := by
      show Keeps J (observePromise promise >>= fun o => pure (o, looks))
      infer_instance
    have hjob : ∀ n, Keeps J ((promiseWaiting call answers promise).runJob.run n) := by
      intro n
      show Keeps J (runJob call >>= fun ran => pure (ran, n))
      infer_instance
    unfold Waiting.wait
    rw [StateT.run_bind]
    refine Keeps.andThen hobserve fun ⟨observation, n⟩ => ?_
    cases observation with
    | resolved value => exact .pure _
    | rejected reason => exact .pure _
    | pending =>
      dsimp only
      rw [StateT.run_bind]
      refine Keeps.andThen (.pure (answers n, n + 1)) fun ⟨answer, m⟩ => ?_
      cases answer with
      | error halt => exact .pure _
      | ok _ =>
        dsimp only
        rw [StateT.run_bind]
        refine Keeps.andThen (hjob m) fun ⟨ran, k⟩ => ?_
        cases ran with
        | true => exact ih k
        | false => exact .pure _

instance {call : Call} [∀ f this args, Keeps J (call f this args)] (looks : Nat)
    (watchdog : Watchdog) (clock : Nat → Instant) (promise : Ref) :
    Keeps J (waitWithin looks call watchdog clock promise) := by
  have hwait := fun answers => @keeps_wait J call _ answers promise looks 0
  unfold waitWithin
  dsimp only
  rw [StateT.run'_eq]
  infer_instance

section
variable [Admits J]

instance (name : String) (installer : Installer) : Keeps J (installer.install name) := by
  cases installer <;>
  · unfold Installer.install
    infer_instance

instance (hook : Option AfterHook) (name : String) : Keeps J (runAfter hook name) := by
  unfold runAfter
  cases hook with
  | none => infer_instance
  | some f => exact Keeps.andThen (.modify fun _ => rfl) fun _ => inferInstance

instance {before : Enable → Machine (Except String Installer)}
    {install : String → Installer → Machine Unit} {after : String → Machine (Except String Unit)}
    [∀ e, Keeps J (before e)] [∀ name i, Keeps J (install name i)] [∀ name, Keeps J (after name)]
    (modules : List Enable) : Keeps J (installAll before install after modules) := by
  induction modules with
  | nil => exact .pure _
  | cons enable rest ih =>
    unfold installAll
    refine Keeps.andThen inferInstance fun chosen => ?_
    cases chosen with
    | error message => infer_instance
    | ok installer =>
      refine Keeps.andThen inferInstance fun _ => Keeps.andThen inferInstance fun looked => ?_
      cases looked <;> infer_instance

instance (before : Option BeforeHook) (after : Option AfterHook) :
    Keeps J (installModules before after) := by
  unfold installModules
  infer_instance

/-- The driver script is recorded before it runs. -/
theorem keeps_evaluateScript {script : String}
    (hrecord : ∀ g, J g → J (g.recordSource scriptName script)) :
    Keeps J (evaluateScript script) := by
  unfold evaluateScript
  refine Keeps.andThen (keeps_modifyRegistry hrecord) fun _ => ?_
  refine Keeps.andThen inferInstance fun w => ?_
  cases w.surroundings.compile script <;> infer_instance

end

/-! ## Stages -/

/-- Whether the error is an exception that was captured. -/
def LintError.isException : LintError → Bool
  | .evaluate _ => true
  | _ => false

/-- A stage of a run keeps the property of the registry, and an exception that it ends in is
captured with the sources of the registry that it leaves. -/
structure Captures (J : Registry → Prop) (x : Run α) : Prop where
  keeps : ∀ w, J w.registry → J (x.run.run w).2.registry
  sources : ∀ w captured w', J w.registry → x.run.run w = (.error (.evaluate captured), w') →
    captured = interrupted ∨
      ∃ text stack missing, captured = .ofThrown w'.registry.sources text stack missing

theorem run_bind_stage (w : World) (x : Run α) (f : α → Run β) :
    (x >>= f).run.run w =
      match x.run.run w with
      | (.ok a, w) => (f a).run.run w
      | (.error e, w) => (.error e, w) := by
  rw [ExceptT.run_bind, StateT.run_bind]
  cases x.run.run w with
  | mk r w => cases r <;> rfl

/-- Nothing comes behind the end of a run. -/
theorem throw_bind (e : LintError) (f : α → Run β) :
    (MonadExcept.throw e : Run α) >>= f = MonadExcept.throw e := rfl

theorem run_lift (w : World) (action : Machine α) :
    (liftM (ExceptT.run action : StateM World _) : Run (Except Stop α)).run.run w =
      (.ok (run w action).1, (run w action).2) := rfl

namespace Captures

theorem pure (a : α) : Captures J (Pure.pure a : Run α) := by
  refine ⟨fun w h => h, ?_⟩
  intro w captured w' _ hrun
  cases hrun

theorem throw {e : LintError} (he : e.isException = false) : Captures J (throw e : Run α) := by
  refine ⟨fun w h => h, ?_⟩
  intro w captured w' _ hrun
  cases hrun
  cases he

/-- The engine is stopped before any code has run. -/
theorem interrupt : Captures J (MonadExcept.throw (.evaluate interrupted) : Run α) := by
  refine ⟨fun w h => h, ?_⟩
  intro w captured w' _ hrun
  cases hrun
  exact .inl rfl

/-- A computation of the guest whose end is looked at. -/
theorem lift {action : Machine α} [hkeeps : Keeps J action] :
    Captures J (liftM (ExceptT.run action : StateM World _) : Run (Except Stop α)) := by
  refine ⟨fun w h => hkeeps.keeps w h, ?_⟩
  intro w captured w' _ hrun
  cases hrun

theorem bind {x : Run α} {f : α → Run β} (hx : Captures J x) (hf : ∀ a, Captures J (f a)) :
    Captures J (x >>= f) := by
  constructor
  · intro w h
    have h' := hx.keeps w h
    rw [run_bind_stage]
    cases hrun : x.run.run w with
    | mk r w' =>
      rw [hrun] at h'
      cases r with
      | ok a => exact (hf a).keeps w' h'
      | error e => exact h'
  · intro w captured w'' h hbind
    have h' := hx.keeps w h
    rw [run_bind_stage] at hbind
    cases hrun : x.run.run w with
    | mk r w' =>
      rw [hrun] at h' hbind
      cases r with
      | ok a => exact (hf a).sources w' captured w'' h' hbind
      | error e =>
        cases hbind
        exact hx.sources w captured _ h hrun

end Captures

/-! ## The start of the engine -/

/-- What a run ends with when its deadline is behind the end of the clock. -/
def deadlineOverflow : LintError := .fault "overflow when adding duration to instant"

/-- The ways in which the engine of a run starts or does not. -/
inductive Starts (context : HostContext) (config : Config) : Except LintError Watchdog → Prop
  | overflow
    (hstart : Watchdog.start (context.clock 0) config.timeout (config.cancelled.getD false) = none) :
    Starts context config (.error deadlineOverflow)
  | noMemory {watchdog : Watchdog}
    (hstart : Watchdog.start (context.clock 0) config.timeout (config.cancelled.getD false) =
      some watchdog) :
    Starts context config (.error .noMemory)
  | interrupted {watchdog : Watchdog}
    (hstart : Watchdog.start (context.clock 0) config.timeout (config.cancelled.getD false) =
      some watchdog) :
    Starts context config (.error (.evaluate Lint.interrupted))
  | ready {watchdog : Watchdog}
    (hstart : Watchdog.start (context.clock 0) config.timeout (config.cancelled.getD false) =
      some watchdog)
    (hcheck : watchdog.check (context.clock 0) = .ok ()) :
    Starts context config (.ok watchdog)

/-- Starting the engine changes nothing. -/
theorem run_startEngine_starts (context : HostContext) (config : Config) (w : World) :
    ∃ r, (startEngine context config).run.run w = (r, w) ∧ Starts context config r := by
  unfold startEngine
  cases hstart : Watchdog.start (context.clock 0) config.timeout (config.cancelled.getD false) with
  | none => exact ⟨_, rfl, .overflow hstart⟩
  | some watchdog =>
    simp only [throw_bind]
    split
    · exact ⟨_, rfl, .noMemory hstart⟩
    · cases hcheck : watchdog.check (context.clock 0) with
      | error halt => exact ⟨_, rfl, .interrupted hstart⟩
      | ok _ => exact ⟨_, rfl, .ready hstart hcheck⟩

theorem captures_startEngine (context : HostContext) (config : Config) :
    Captures J (startEngine context config) := by
  unfold startEngine
  cases Watchdog.start (context.clock 0) config.timeout (config.cancelled.getD false) with
  | none => exact .throw rfl
  | some watchdog =>
    simp only [throw_bind]
    split
    · exact .throw rfl
    cases watchdog.check (context.clock 0) with
    | error halt => exact .interrupt
    | ok _ => exact .pure watchdog

/-! ## Capturing -/

/-- What is captured of a thrown value is looked up in the sources of the registry that is left. -/
theorem capture_sources {call : Call} {thrown : Value} {w w' : World} {captured : Captured}
    (hrun : run w (capture call thrown) = (.ok captured, w')) :
    ∃ text stack missing, captured = .ofThrown w'.registry.sources text stack missing := by
  have hend : ∀ {text : Option String} {w : World}, run w (do
      let stack ← objectText? thrown "stack"
      let missing ← objectText? thrown "moduleName"
      pure (Captured.ofThrown (← get).registry.sources text stack missing)) = (.ok captured, w') →
      ∃ text stack missing, captured = .ofThrown w'.registry.sources text stack missing := by
    intro text w h
    obtain ⟨stack, w1, -, h⟩ := run_bind_eq_ok h
    obtain ⟨missing, w2, -, h⟩ := run_bind_eq_ok h
    rw [run_bind_ok (run_get w2), run_pure] at h
    obtain ⟨hcaptured, rfl⟩ := Prod.mk.inj h
    exact ⟨text, stack, missing, (Except.ok.inj hcaptured).symm⟩
  unfold capture at hrun
  obtain ⟨outcome, w1, -, h⟩ := run_bind_eq_ok hrun
  cases outcome with
  | ok text =>
    obtain ⟨text, w2, -, h⟩ := run_bind_eq_ok h
    exact hend h
  | error e =>
    obtain ⟨text, w2, -, h⟩ := run_bind_eq_ok h
    exact hend h

section
variable [Admits J]

theorem captures_capture (thrown : Value) : Captures J (do
    match ← (ExceptT.run (capture engineCall thrown) : StateM World _) with
    | .ok captured => throw (.evaluate captured)
    | .error _ => throw .endless : Run α) := by
  have hkeeps : Keeps J (capture engineCall thrown) := inferInstance
  constructor
  · intro w h
    have h' := hkeeps.keeps w h
    rw [run_bind_stage, run_lift]
    cases hrun : run w (capture engineCall thrown) with
    | mk r w' =>
      rw [hrun] at h'
      cases r <;> exact h'
  · intro w captured w' _ hend
    rw [run_bind_stage, run_lift] at hend
    cases hrun : run w (capture engineCall thrown) with
    | mk r w'' =>
      rw [hrun] at hend
      cases r with
      | ok c =>
        cases hend
        exact .inr (capture_sources hrun)
      | error stop => cases hend

theorem captures_stage (watchdog : Watchdog) (now : Instant) (action : Machine α)
    [Keeps J action] : Captures J (stage watchdog now action) := by
  unfold stage
  refine Captures.lift.bind fun result => ?_
  cases result with
  | ok a => exact .pure a
  | error stop =>
    cases stop with
    | fault message => exact .throw rfl
    | endless =>
      dsimp only
      cases watchdog.deadline <;> exact .throw rfl
    | thrown v =>
      dsimp only
      cases watchdog.check now with
      | error halt => exact .throw rfl
      | ok _ => exact captures_capture v

/-! ## The whole run -/

theorem captures_conclude {call : Call} [∀ f this args, Keeps J (call f this args)]
    (watchdog : Watchdog) (now : Instant) (outcome : WaitOutcome Value) :
    Captures J (conclude call watchdog now outcome) := by
  cases outcome with
  | resolved value => exact .pure value
  | rejected reason =>
    refine (captures_stage watchdog now (describe call reason)).bind fun text => ?_
    exact .throw rfl
  | halted halt => exact .throw rfl
  | stalled => exact .throw rfl

theorem captures_finalValue {call : Call} [∀ f this args, Keeps J (call f this args)]
    (looks : Nat) (watchdog : Watchdog) (clock : Nat → Instant) (completion : Value) :
    Captures J (finalValueWithin looks call watchdog clock completion) := by
  unfold finalValueWithin
  refine (captures_stage watchdog (clock 0) (promise? completion)).bind fun found => ?_
  cases found with
  | none => exact .pure completion
  | some promise =>
    refine (captures_stage watchdog (clock 0) _).bind fun outcome => ?_
    cases outcome with
    | some outcome => exact captures_conclude watchdog (clock 0) outcome
    | none => exact .throw rfl

theorem captures_loadModules (watchdog : Watchdog) (now : Instant) (before : Option BeforeHook)
    (after : Option AfterHook) : Captures J (loadModules watchdog now before after) := by
  unfold loadModules
  refine (captures_stage watchdog _ _).bind fun installed => ?_
  cases installed with
  | error failure => exact .throw rfl
  | ok _ => exact .pure ()

/-- What a run makes of its final value. -/
theorem captures_readReport (watchdog : Watchdog) (now : Instant) (v : Value) :
    Captures J (readReport watchdog now v) := by
  unfold readReport
  cases v with
  | text json =>
    dsimp only
    cases Report.decode json with
    | ok report => exact .pure report
    | error e => exact .throw rfl
  | _ =>
    refine (captures_stage watchdog now _).bind fun word => ?_
    exact .throw rfl

/-- A run keeps what the guest and the recording of the driver script keep, and an exception that it
ends in is captured with the sources of the registry that it leaves. -/
theorem captures_runConfig (looks : Nat) (context : HostContext) (config : Config)
    (documents : List String) (ruleset : String)
    (hscript : ∀ g, J g → J (g.recordSource scriptName config.script)) :
    Captures J (runConfigWithin looks context config documents ruleset) := by
  have hevaluate : Keeps J (evaluateScript config.script) := keeps_evaluateScript hscript
  unfold runConfigWithin
  refine (captures_startEngine context config).bind fun watchdog => ?_
  refine (captures_loadModules watchdog _ _ _).bind fun _ => ?_
  unfold runBundleWithin
  refine (captures_stage watchdog _ _).bind fun completion => ?_
  refine (captures_finalValue looks watchdog context.clock completion).bind fun v => ?_
  exact captures_readReport watchdog _ v

end
end GuestLint.Lint
