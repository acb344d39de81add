import GuestLint.Proofs.Guest.Driver
import GuestLint.Proofs.Lint.Stages
import GuestLint.Proofs.Lint.Waiting

/-!
# A run up to its wait

A run makes a new world, installs the builtin modules, loads the bundle and evaluates the driver
script. All of this stays within the world: when the script makes its chain of promises, no value
refers to a place behind the heap's end, and so none refers to the chain.

* `loadBundle`: a run as far as the driver script; `sealed_loadBundle`: the world that it leaves.
* `PromiseRun`: a run without limits, with the default driver script and a bundle that exports a
  promise; `PromiseRun.run_evaluateScript`: what the script comes to.
* `PromiseRun.lint_ends`: what the run ends with, from the first verdict of its wait.
-/
namespace GuestLint.Lint

open Guest

variable {s : Seal} {n : Nat} {α : Type}

/-! ## What makes a world ready -/

instance (workingDirectory : String) (documents : List String) (ruleset : String) :
    Guards s n (bindWork workingDirectory documents ruleset) := by
  unfold bindWork
  infer_instance

instance (name : String) (installer : Installer) : Guards s n (installer.install name) := by
  cases installer <;>
  · unfold Installer.install
    infer_instance

instance (hook : Option AfterHook) (name : String) : Guards s n (runAfter hook name) := by
  unfold runAfter
  cases hook with
  | none => infer_instance
  | some f =>
    exact Guards.andThen (.changePlain fun _ => rfl) fun _ _ _ _ => inferInstance

theorem guards_installAll {before : Enable → Machine (Except String Installer)}
    {install : String → Installer → Machine Unit} {after : String → Machine (Except String Unit)}
    (hbefore : ∀ n e, Guards s n (before e)) (hinstall : ∀ n name i, Guards s n (install name i))
    (hafter : ∀ n name, Guards s n (after name)) (modules : List Enable) :
    Guards s n (installAll before install after modules) := by
  induction modules generalizing n with
  | nil => exact .pure _
  | cons enable rest ih =>
    unfold installAll
    refine Guards.andThen (hbefore _ _) fun k hle chosen _ => ?_
    cases chosen with
    | error message => infer_instance
    | ok installer =>
      refine Guards.andThen (hinstall _ _ _) fun k hle _ _ => ?_
      refine Guards.andThen (hafter _ _) fun k hle looked _ => ?_
      cases looked with
      | error message => infer_instance
      | ok _ => exact ih

instance (before : Option BeforeHook) (after : Option AfterHook) :
    Guards s n (installModules before after) := by
  unfold installModules
  refine Guards.andThen inferInstance fun k hle _ _ => ?_
  exact guards_installAll (fun _ _ => inferInstance) (fun _ _ _ => inferInstance)
    (fun _ _ => inferInstance) enables

/-! ## Loading the bundle -/

/-- Requires the bundle with the names of the run's work bound. -/
def requireBundle (config : Config) (documents : List String) (ruleset : String) :
    Machine Unit := do
  bindWork config.workingDirectory documents ruleset
  let _ ← callRequire engineCall bundleName

/-- A run as far as the driver script. -/
def loadBundle (context : HostContext) (config : Config) (documents : List String)
    (ruleset : String) : Run Unit := do
  let watchdog ← startEngine context config
  loadModules watchdog (context.clock 0) config.before config.after
  stage watchdog (context.clock 0) (requireBundle config documents ruleset)

/-- A stage that a run goes on behind has come to a value. -/
theorem stage_eq_ok {watchdog : Watchdog} {now : Instant} {action : Machine α} {w w' : World}
    {a : α} (h : (stage watchdog now action).run.run w = (.ok a, w')) :
    run w action = (.ok a, w') := by
  unfold stage at h
  rw [run_bind_stage, run_lift] at h
  cases hrun : run w action with
  | mk result w₁ =>
    rw [hrun] at h
    cases result with
    | ok a' =>
      cases h
      rfl
    | error stop =>
      cases stop with
      | fault message => cases h
      | endless =>
        dsimp only at h
        cases hd : watchdog.deadline <;> rw [hd] at h <;> cases h
      | thrown v =>
        dsimp only at h
        cases hcheck : watchdog.check now with
        | error halt =>
          rw [hcheck] at h
          cases h
        | ok u =>
          rw [hcheck] at h
          dsimp only at h
          rw [run_bind_stage, run_lift] at h
          cases hcapture : run w₁ (capture engineCall v) with
          | mk captured w₂ =>
            rw [hcapture] at h
            cases captured <;> cases h

theorem run_bind_stage_eq_ok {β : Type} {x : Run α} {f : α → Run β} {w w'' : World} {b : β}
    (h : (x >>= f).run.run w = (.ok b, w'')) :
    ∃ a w', x.run.run w = (.ok a, w') ∧ (f a).run.run w' = (.ok b, w'') := by
  rw [run_bind_stage] at h
  cases hx : x.run.run w with
  | mk result w' =>
    rw [hx] at h
    cases result with
    | ok a => exact ⟨a, w', rfl, h⟩
    | error e => cases h

theorem run_bind_stage_ok {β : Type} {x : Run α} {w w' : World} {a : α}
    (h : x.run.run w = (.ok a, w')) (f : α → Run β) :
    (x >>= f).run.run w = (f a).run.run w' := by
  rw [run_bind_stage, h]

/-- Nothing is hidden yet, and nothing refers to a place behind the heap's end. -/
theorem sealed_startWorld (context : HostContext) (loader : Modules.SourceLoader) :
    Sealed Seal.open (startWorld context loader) where
  based := Nat.le_refl _
  bounded _ h := nomatch h
  watched := (by decide : 0 < firstHeap.size)
  clear :=
    { heap := (inferInstance : Clear Seal.open firstHeap.size firstHeap).clear
      jobs := fun _ h => nomatch h
      channels := fun _ => Builtin.clear_newChannel.clear
      stored := fun _ h => nomatch h
      kept := fun _ h => nomatch h }

/-- What a computation that has come back with a value leaves. -/
theorem within_ok [Refers α] {x : Machine α} {w w' : World} {a : α} (hw : Sealed s w)
    (hx : Guards s w.heap.size x) (h : run w x = (.ok a, w')) :
    Within s w w' ∧ Refers.clear s w'.heap.size a := by
  have hends := hx.ensures w (Nat.le_refl _) hw
  rw [h] at hends
  exact hends

instance (config : Config) (documents : List String) (ruleset : String) :
    Guards s n (requireBundle config documents ruleset) := by
  unfold requireBundle
  infer_instance

section
variable {context : HostContext} {config : Config} {documents : List String} {ruleset : String}
  {w : World}

/-- The settings set no limits, and the run has not been cancelled. -/
structure Unlimited (config : Config) : Prop where
  timeout : config.timeout = none
  cancelled : config.cancelled.getD false = false
  memoryLimit : config.memoryLimit = none

/-- Without limits the engine starts, and the watchdog lets everything go on. -/
theorem run_startEngine (h : Unlimited config) (w : World) :
    (startEngine context config).run.run w = (.ok {}, w) := by
  unfold startEngine
  rw [h.timeout, h.cancelled, h.memoryLimit]
  rfl

theorem loadModules_eq_ok {watchdog : Watchdog} {now : Instant} {before : Option BeforeHook}
    {after : Option AfterHook} {w' : World}
    (h : (loadModules watchdog now before after).run.run w = (.ok (), w')) :
    run w (installModules before after) = (.ok (.ok ()), w') := by
  unfold loadModules at h
  obtain ⟨installed, w₁, hinstalled, h⟩ := run_bind_stage_eq_ok h
  cases installed with
  | error failure => cases h
  | ok u =>
    cases h
    exact stage_eq_ok hinstalled

/-- The way of a run to the driver script. -/
theorem loadBundle_eq_ok (hlimits : Unlimited config) {w' : World}
    (h : (loadBundle context config documents ruleset).run.run w = (.ok (), w')) :
    ∃ w₁, (loadModules {} (context.clock 0) config.before config.after).run.run w = (.ok (), w₁) ∧
      run w₁ (requireBundle config documents ruleset) = (.ok (), w') := by
  unfold loadBundle at h
  rw [run_bind_stage_ok (run_startEngine hlimits w)] at h
  obtain ⟨u, w₁, hmodules, h⟩ := run_bind_stage_eq_ok h
  exact ⟨w₁, hmodules, stage_eq_ok h⟩

/-- **Loaded.** When the bundle has been loaded nothing refers to a place behind the heap's end,
and the world's surroundings are those of the run. -/
theorem sealed_loadBundle (hlimits : Unlimited config) {loader : Modules.SourceLoader} {w' : World}
    (h : (loadBundle context config documents ruleset).run.run (startWorld context loader) =
      (.ok (), w')) :
    Sealed Seal.open w' ∧ w'.surroundings = context.surroundings := by
  obtain ⟨w₁, hmodules, hrequire⟩ := loadBundle_eq_ok hlimits h
  obtain ⟨hin, -⟩ := within_ok (sealed_startWorld context loader) inferInstance
    (loadModules_eq_ok hmodules)
  obtain ⟨hin', -⟩ := within_ok hin.is inferInstance hrequire
  exact ⟨hin'.is, hin'.surroundings.trans hin.surroundings⟩

end

/-! ## The driver script -/

/-- A text that starts with a character to see is not trimmed to nothing. -/
theorem trim_ne_nil {c : Char} {cs : List Char} (h : Text.isBlank c = false) :
    Text.trim (c :: cs) ≠ [] := by
  unfold Text.trim Text.trimEnd Text.trimStart
  rw [List.dropWhile_cons_of_neg (by simp [h]), List.reverse_cons, List.dropWhile_append]
  split <;> simp [h]

/-- The default driver script is one expression. -/
theorem compile_defaultScript {programs : List (String × Script)}
    (h : programs.lookup defaultScript = none) :
    compile programs defaultScript = some [.complete .formattedResults] := by
  obtain ⟨cs, hcode⟩ : ∃ cs, defaultScript.toList = 'v' :: cs := by
    unfold defaultScript
    simp only [String.toList_append]
    exact ⟨_, rfl⟩
  have htrim : Text.trim defaultScript.toList ≠ [] := by
    rw [hcode]
    exact trim_ne_nil (by decide)
  unfold compile
  rw [h]
  unfold readSource
  dsimp only
  rw [if_neg htrim, if_pos rfl]

theorem run_atPlace_ok {frame : Frame} {x : Machine α} {w w' : World} {a : α}
    (h : run { w with frames := frame :: w.frames } x = (.ok a, w')) :
    run w (atPlace frame x) = (.ok a, { w' with frames := w.frames }) := by
  unfold atPlace
  rw [run_bind_ok (run_get w), run_bind_ok (run_modify w _)]
  have hcatch : run { w with frames := frame :: w.frames } (tryCatch x fun stop => do
      modify fun world => { world with frames := w.frames }
      throw stop) = (.ok a, w') := (run_tryCatch _ _ _).trans (by rw [h])
  exact run_bind_ok hcatch _

/-- The world in which the driver script requires the bundle. -/
def scriptWorld (w : World) : World :=
  { w with
    registry := w.registry.recordSource scriptName defaultScript
    frames := ⟨scriptName, 1, "<anonymous>"⟩ :: w.frames }

/-- A run without limits, with the default driver script, whose bundle exports a promise. -/
structure PromiseRun (context : HostContext) (documents : List String) (ruleset : String)
    (options : List LintOption) where
  config : Config
  settled : settle context options = .ok config
  unlimited : Unlimited config
  script : config.script = defaultScript
  /-- The host has no program of its own for the script. -/
  unlisted : context.programs.lookup defaultScript = none
  /-- The world in which the bundle has been loaded. -/
  loaded : World
  loads : (loadBundle context config documents ruleset).run.run
    (startWorld context (bundleLoader context.host config.dist)) = (.ok (), loaded)
  /-- The world in which the script has the bundle. -/
  world : World
  bundle : Ref
  requires : run (scriptWorld loaded) (callRequire engineCall bundleName) =
    (.ok (.object bundle), world)
  promise : Ref
  exports : world.heap.find bundle "lint" = some (.object promise)
  standard : StandardPromise world promise

namespace PromiseRun

variable {context : HostContext} {documents : List String} {ruleset : String}
  {options : List LintOption} (r : PromiseRun context documents ruleset options)

/-- The world in which the wait begins. -/
def start : World :=
  { chained r.world (.object r.bundle) r.promise with frames := r.loaded.frames }

theorem start_heap : r.start.heap = (chained r.world (.object r.bundle) r.promise).heap := by
  rw [start]

theorem start_jobs : r.start.jobs = (chained r.world (.object r.bundle) r.promise).jobs := by
  rw [start]

theorem start_parts :
    r.start.guestParts = (chained r.world (.object r.bundle) r.promise).guestParts := by
  unfold start World.guestParts
  dsimp only

/-- The world after a number of turns. -/
def turn (n : Nat) : World := worldAt engineCall r.start n

/-- The script's promise. -/
def result : Ref := r.world.heap.size

theorem sealed_loaded : Sealed Seal.open r.loaded ∧ r.loaded.surroundings = context.surroundings :=
  sealed_loadBundle r.unlimited r.loads

theorem sealed_world : Sealed Seal.open r.world ∧ r.bundle < r.world.heap.size := by
  obtain ⟨hw, -⟩ := r.sealed_loaded
  have hscript : Sealed Seal.open (scriptWorld r.loaded) := .congr (by rfl) hw
  obtain ⟨hin, hbundle⟩ := within_ok hscript inferInstance r.requires
  exact ⟨hin.is, Heap.lt_of_visible hin.is.based hbundle⟩

/-- **Script.** The driver script comes to a promise, and leaves its chain. -/
theorem run_evaluateScript :
    run r.loaded (evaluateScript r.config.script) = (.ok (.object r.result), r.start) := by
  obtain ⟨hw, hbundle⟩ := r.sealed_world
  obtain ⟨-, hsurroundings⟩ := r.sealed_loaded
  have hresults : run (scriptWorld r.loaded) (bundleResults engineCall) =
      (.ok (.object r.result), chained r.world (.object r.bundle) r.promise) := by
    rw [bundleResults_eq, run_bind_ok r.requires]
    exact run_formatLater hw r.exports hbundle r.standard
  have hstep : run (scriptWorld r.loaded) (some <$> bundleResults engineCall) =
      (.ok (some (.object r.result)), chained r.world (.object r.bundle) r.promise) := by
    rw [← bind_pure_comp, run_bind_ok hresults]
    rfl
  have hplace := run_atPlace_ok (w := { r.loaded with
    registry := r.loaded.registry.recordSource scriptName defaultScript }) hstep
  have hcompile : r.loaded.surroundings.compile defaultScript =
      some [.complete .formattedResults] := by
    rw [hsurroundings]
    exact compile_defaultScript r.unlisted
  unfold evaluateScript
  rw [r.script]
  refine (run_bind_ok (run_modify r.loaded _) _).trans ?_
  rw [run_bind_ok (run_get _)]
  dsimp only
  rw [hcompile]
  exact run_bind_ok hplace _

/-! ## The end of the run -/

/-- What the run has of its world when it begins to wait. -/
theorem run_lintWithin (looks : Nat) :
    lintWithin looks context documents ruleset options =
      ((finalValueWithin looks engineCall {} context.clock (.object r.result)) >>=
        readReport {} (context.clock 0)).run.run r.start := by
  obtain ⟨w₁, hmodules, hrequire⟩ := loadBundle_eq_ok r.unlimited r.loads
  have hcompletion : run w₁ (do
      bindWork r.config.workingDirectory documents ruleset
      let _ ← callRequire engineCall bundleName
      evaluateScript r.config.script) = (.ok (.object r.result), r.start) := by
    unfold requireBundle at hrequire
    obtain ⟨u, w₂, hbind, hrequire⟩ := run_bind_eq_ok hrequire
    obtain ⟨exports, w₃, hrequire, hend⟩ := run_bind_eq_ok hrequire
    cases hend
    rw [run_bind_ok hbind, run_bind_ok hrequire]
    exact r.run_evaluateScript
  unfold lintWithin
  rw [r.settled]
  dsimp only
  unfold runConfigWithin
  refine (run_bind_stage_ok (run_startEngine r.unlimited _) _).trans ?_
  rw [run_bind_stage_ok hmodules]
  unfold runBundleWithin
  exact run_stage_bind hcompletion _ _ _

/-- **End.** The first verdict of the wait ends the run. -/
theorem lint_ends {n : Nat} {o : WaitOutcome Value}
    (hresult : ∃ state, (r.start.heap.at_ r.result).kind = .promise state)
    (hback : ∀ i < n, ∃ ran, (run (r.turn i) (runJob engineCall)).1 = .ok ran)
    (hbefore : ∀ i < n, verdictAt engineCall (fun _ => .ok ()) r.result r.start i = none)
    (hend : verdictAt engineCall (fun _ => .ok ()) r.result r.start n = some o) {looks : Nat}
    (hlooks : n < looks) :
    lintWithin looks context documents ruleset options =
      (conclude engineCall {} (context.clock 0) o >>= readReport {} (context.clock 0)).run.run
        (r.turn n) := by
  obtain ⟨state, hk⟩ := hresult
  have hwait : run r.start (waitWithin looks engineCall {} context.clock r.result) =
      (.ok (some o), r.turn n) := run_wait (recordedWait_ends hback hbefore hend hlooks)
  rw [r.run_lintWithin, run_bind_stage, finalValue_of_wait hk hwait, ← run_bind_stage]

end PromiseRun

end GuestLint.Lint
