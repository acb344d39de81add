import GuestLint.Proofs.Guest.Heap
import GuestLint.Proofs.Lint.Stages

/-!
# The events of an installation

What happens while the builtin modules are installed is a list of events: for each module in turn
the hook that chooses its installer, the installer, and the hook that looks at the module. An event
that fails is the last one. The events are told by an installation that notes each of them, for any
installers, and this is the installation of a run except for the record.

* `schedule`: all events, in order.
* `Ends`: the events up to the first that fails, and what it makes of the installation.
* `Noted`, `notedInstall`: the installation with its record.
* `noted_one`, `noted_all`: the record changes nothing, of one module and of several.
* `play_ends`: how an installation ends.
-/
namespace GuestLint.Lint

open Guest

/-! ## Events -/

/-- What happens while modules are installed. -/
inductive Event where
  | before (enable : Enable)
  | install (module : String) (installer : Installer)
  | after (module : String)
  deriving Repr, DecidableEq

/-- The module that an event is about. -/
def Event.module : Event → String
  | before enable => enable.name
  | install module _ => module
  | after module => module

/-- An event that needs a hook. -/
def hooked {α : Type} (hook : Option α) (event : Event) : List Event :=
  (hook.map fun _ => event).toList

section
variable (install : String → Installer → Machine Unit) (before : Option BeforeHook)
  (after : Option AfterHook)

/-- How a module is to be installed: as the hook chooses, and in its own way without one. -/
def chosen (enable : Enable) : Except String Installer :=
  match before with
  | some hook => hook enable
  | none => .ok enable.installer

/-- The events of one module. There is nothing to install when the hook refuses. -/
def eventsOf (enable : Enable) : List Event :=
  hooked before (.before enable) ++
    match chosen before enable with
    | .ok installer => .install enable.name installer :: hooked after (.after enable.name)
    | .error _ => []

/-- The events of modules, in order. -/
def schedule (modules : List Enable) : List Event := modules.flatMap (eventsOf before after)

/-- An event that does not fail, from one world to another. -/
inductive Passes : World → Event → World → Prop
  | before {w : World} {hook : BeforeHook} {enable : Enable} {installer : Installer}
    (hhook : before = some hook) (hchosen : hook enable = .ok installer) :
    Passes w (.before enable) w
  | install {w w' : World} {module : String} {installer : Installer}
    (hrun : run w (install module installer) = (.ok (), w')) :
    Passes w (.install module installer) w'
  | after {w : World} {hook : AfterHook} {module : String} (hhook : after = some hook)
    (hlooked : hook module = .ok ()) :
    Passes w (.after module) { w with visited := w.visited.push module }

/-- Events of which none fails. -/
inductive PassAll : World → List Event → World → Prop
  | nil (w : World) : PassAll w [] w
  | cons {w w' w'' : World} {event : Event} {events : List Event}
    (hfirst : Passes install before after w event w') (hrest : PassAll w' events w'') :
    PassAll w (event :: events) w''

/-- An event that fails, and what the installation ends with: the failure of a hook names the
module, and what an installer throws is passed on. -/
inductive Fails : World → Event → Except Stop (Except HookFailure Unit) → World → Prop
  | before {w : World} {hook : BeforeHook} {enable : Enable} {message : String}
    (hhook : before = some hook) (hchosen : hook enable = .error message) :
    Fails w (.before enable) (.ok (.error (.before enable.name message))) w
  | install {w w' : World} {module : String} {installer : Installer} {stop : Stop}
    (hrun : run w (install module installer) = (.error stop, w')) :
    Fails w (.install module installer) (.error stop) w'
  | after {w : World} {hook : AfterHook} {module message : String} (hhook : after = some hook)
    (hlooked : hook module = .error message) :
    Fails w (.after module) (.ok (.error (.after module message)))
      { w with visited := w.visited.push module }

/-- How the installation of modules ends: with the last event of the schedule, or with the first
event that fails. `behind` are the modules that it does not come to. -/
inductive Ends (modules : List Enable) (w : World) :
    List Event → Except Stop (Except HookFailure Unit) → World → List Enable → Prop
  | all {w' : World} (hpass : PassAll install before after w (schedule before after modules) w') :
    Ends modules w (schedule before after modules) (.ok (.ok ())) w' []
  | failed {front : List Enable} {enable : Enable} {behind : List Enable} {part : List Event}
    {failing : Event} {rest : List Event} {between w' : World}
    {result : Except Stop (Except HookFailure Unit)}
    (hmodules : modules = front ++ enable :: behind)
    (hevents : eventsOf before after enable = part ++ failing :: rest)
    (hpass : PassAll install before after w (schedule before after front ++ part) between)
    (hfails : Fails install before after between failing result w') :
    Ends modules w (schedule before after front ++ part ++ [failing]) result w' behind

end

section
variable {install : String → Installer → Machine Unit} {before : Option BeforeHook}
  {after : Option AfterHook} {w w' w'' : World} {events more : List Event}

theorem PassAll.single {event : Event} (h : Passes install before after w event w') :
    PassAll install before after w [event] w' := .cons h (.nil _)

theorem PassAll.append (h : PassAll install before after w events w')
    (hmore : PassAll install before after w' more w'') :
    PassAll install before after w (events ++ more) w'' := by
  induction h with
  | nil => exact hmore
  | cons hfirst _ ih => exact .cons hfirst (ih hmore)

/-- An installation that ends with a failure has not come to its end. -/
theorem Fails.ne_ok {event : Event} {result : Except Stop (Except HookFailure Unit)}
    (h : Fails install before after w event result w') : result ≠ .ok (.ok ()) := by
  cases h <;> simp

/-- The first module is not installed. -/
theorem Ends.first {enable : Enable} (behind : List Enable) {part rest : List Event}
    {failing : Event} {result : Except Stop (Except HookFailure Unit)}
    (hevents : eventsOf before after enable = part ++ failing :: rest)
    (hpass : PassAll install before after w part w')
    (hfails : Fails install before after w' failing result w'') :
    Ends install before after (enable :: behind) w (part ++ [failing]) result w'' behind :=
  @Ends.failed install before after _ w [] enable behind part failing rest w' w'' result rfl hevents
    hpass hfails

/-- The module in front has been installed. -/
theorem Ends.cons {enable : Enable} {modules behind : List Enable}
    {result : Except Stop (Except HookFailure Unit)}
    (hpass : PassAll install before after w (eventsOf before after enable) w')
    (h : Ends install before after modules w' events result w'' behind) :
    Ends install before after (enable :: modules) w (eventsOf before after enable ++ events) result
      w'' behind := by
  cases h with
  | all hrest => exact .all (hpass.append hrest)
  | @failed front failed _ part failing rest between _ _ hmodules hevents hrest hfails =>
    have hfront : eventsOf before after enable ++ (schedule before after front ++ part) =
        schedule before after (enable :: front) ++ part := by
      simp [schedule]
    rw [← List.append_assoc, hfront]
    refine .failed (by rw [hmodules, List.cons_append]) hevents ?_ hfails
    rw [← hfront]
    exact hpass.append hrest

end

/-! ## Installations with a record -/

/-- A computation that keeps a record of events. -/
abbrev Noted (ε : Type) := ExceptT ε (StateT (List Event) (StateM World))

namespace Noted
variable {ε α β : Type}

/-- A computation of which nothing is noted. -/
def of (x : ExceptT ε (StateM World) α) : Noted ε α :=
  fun events w => (((x.run.run w).1, events), (x.run.run w).2)

/-- What becomes of a computation that starts with some events noted. -/
def result (w : World) (events : List Event) (x : Noted ε α) :
    (Except ε α × List Event) × World :=
  x events w

def note (event : Event) : Noted ε Unit := fun events w => ((.ok (), events ++ [event]), w)

/-- Notes an event that needs a hook. -/
def noteHooked {γ : Type} (hook : Option γ) (event : Event) : Noted ε Unit :=
  fun events w => ((.ok (), events ++ hooked hook event), w)

theorem result_bind (w : World) (events : List Event) (x : Noted ε α) (f : α → Noted ε β) :
    result w events (x >>= f) =
      match result w events x with
      | ((.ok a, events), w) => result w events (f a)
      | ((.error e, events), w) => ((.error e, events), w) := by
  show (ExceptT.bindCont f (x events w).1.1) (x events w).1.2 (x events w).2 = _
  unfold result
  cases x events w with
  | mk p w =>
    obtain ⟨r, events⟩ := p
    cases r <;> rfl

theorem result_bind_ok {w w' : World} {events events' : List Event} {x : Noted ε α} {a : α}
    (h : result w events x = ((.ok a, events'), w')) (f : α → Noted ε β) :
    result w events (x >>= f) = result w' events' (f a) := by
  rw [result_bind, h]

theorem result_bind_error {w w' : World} {events events' : List Event} {x : Noted ε α} {e : ε}
    (h : result w events x = ((.error e, events'), w')) (f : α → Noted ε β) :
    result w events (x >>= f) = ((.error e, events'), w') := by
  rw [result_bind, h]

theorem result_of {w w' : World} {x : ExceptT ε (StateM World) α} {r : Except ε α}
    (h : x.run.run w = (r, w')) (events : List Event) :
    result w events (of x) = ((r, events), w') := by
  show (((x.run.run w).1, events), (x.run.run w).2) = _
  rw [h]

end Noted

/-! ### One module after another -/

section
variable {m : Type → Type} [Monad m] (before : Enable → m (Except String Installer))
  (install : String → Installer → m Unit) (after : String → m (Except String Unit))

/-- Installs one module. -/
def installOne (enable : Enable) : m (Except HookFailure Unit) := do
  match ← before enable with
  | .error message => pure (.error (.before enable.name message))
  | .ok installer =>
    install enable.name installer
    match ← after enable.name with
    | .error message => pure (.error (.after enable.name message))
    | .ok () => pure (.ok ())

theorem installAll_cons [LawfulMonad m] (enable : Enable) (rest : List Enable) :
    installAll before install after (enable :: rest) = (do
      match ← installOne before install after enable with
      | .error failure => pure (.error failure)
      | .ok () => installAll before install after rest) := by
  unfold installOne
  rw [installAll, bind_assoc]
  congr 1
  funext choice
  cases choice with
  | error message => rw [pure_bind]
  | ok installer =>
    dsimp only
    rw [bind_assoc]
    congr 1
    funext _
    rw [bind_assoc]
    congr 1
    funext look
    cases look <;> rw [pure_bind]

end

section
variable (install : String → Installer → Machine Unit) (before : Option BeforeHook)
  (after : Option AfterHook)

/-- Makes `require` known and installs the builtin modules by the given installers. -/
def installModulesBy : Machine (Except HookFailure Unit) := do
  enableRequire
  installAll (fun enable => pure (chosen before enable)) install (runAfter after) enables

def notedBefore (enable : Enable) : Noted Stop (Except String Installer) := do
  Noted.noteHooked before (.before enable)
  pure (chosen before enable)

def notedBy (module : String) (installer : Installer) : Noted Stop Unit := do
  Noted.note (.install module installer)
  Noted.of (install module installer)

def notedAfter (module : String) : Noted Stop (Except String Unit) := do
  Noted.noteHooked after (.after module)
  Noted.of (runAfter after module)

/-- The installation of the builtin modules that notes each event before it happens. -/
def notedInstall : Noted Stop (Except HookFailure Unit) := do
  Noted.of enableRequire
  installAll (notedBefore before) (notedBy install) (notedAfter after) enables

end

theorem installModulesBy_install (before : Option BeforeHook) (after : Option AfterHook) :
    installModulesBy Installer.install before after = installModules before after := rfl

section
variable {install : String → Installer → Machine Unit} {before : Option BeforeHook}
  {after : Option AfterHook}

/-- What the hook says that looks at installed modules. -/
def looked (after : Option AfterHook) (module : String) : Except String Unit :=
  match after with
  | some hook => hook module
  | none => .ok ()

/-- The world in which a module has been looked at. -/
def seen (after : Option AfterHook) (w : World) (module : String) : World :=
  match after with
  | some _ => { w with visited := w.visited.push module }
  | none => w

theorem run_runAfter (w : World) (module : String) :
    run w (runAfter after module) = (.ok (looked after module), seen after w module) := by
  cases after <;> rfl

theorem passAll_before {enable : Enable} {installer : Installer}
    (h : chosen before enable = .ok installer) (w : World) :
    PassAll install before after w (hooked before (.before enable)) w := by
  cases before with
  | none => exact .nil w
  | some hook => exact .single (.before rfl h)

theorem passAll_after {module : String} (h : looked after module = .ok ()) (w : World) :
    PassAll install before after w (hooked after (.after module)) (seen after w module) := by
  cases after with
  | none => exact .nil w
  | some hook => exact .single (.after rfl h)

/-- A refusal comes from a hook. -/
theorem fails_before {enable : Enable} {message : String}
    (h : chosen before enable = .error message) (w : World) :
    hooked before (.before enable) = [.before enable] ∧
      Fails install before after w (.before enable) (.ok (.error (.before enable.name message)))
        w := by
  cases before with
  | none => cases h
  | some hook => exact ⟨rfl, .before rfl h⟩

theorem fails_after {module message : String} (h : looked after module = .error message)
    (w : World) :
    hooked after (.after module) = [.after module] ∧
      Fails install before after w (.after module) (.ok (.error (.after module message)))
        (seen after w module) := by
  cases after with
  | none => cases h
  | some hook => exact ⟨rfl, .after rfl h⟩

/-- How the installation of one module ends. -/
inductive EndsOne (install : String → Installer → Machine Unit) (before : Option BeforeHook)
    (after : Option AfterHook) (enable : Enable) (w : World) :
    List Event → Except Stop (Except HookFailure Unit) → World → Prop
  | installed {w' : World}
    (hpass : PassAll install before after w (eventsOf before after enable) w') :
    EndsOne install before after enable w (eventsOf before after enable) (.ok (.ok ())) w'
  | failed {part rest : List Event} {failing : Event} {between w' : World}
    {result : Except Stop (Except HookFailure Unit)}
    (hevents : eventsOf before after enable = part ++ failing :: rest)
    (hpass : PassAll install before after w part between)
    (hfails : Fails install before after between failing result w') :
    EndsOne install before after enable w (part ++ [failing]) result w'

/-- The record changes nothing of the installation of one module, and tells its events up to the
first that fails. -/
theorem noted_one (enable : Enable) (w : World) (events : List Event) :
    ∃ made result w',
      run w (installOne (fun enable => pure (chosen before enable)) install (runAfter after)
        enable) = (result, w') ∧
      Noted.result w events (installOne (notedBefore before) (notedBy install) (notedAfter after)
        enable) = ((result, events ++ made), w') ∧
      EndsOne install before after enable w made result w' := by
  unfold installOne
  have hbefore : Noted.result w events (notedBefore before enable) =
      ((.ok (chosen before enable), events ++ hooked before (.before enable)), w) := rfl
  rw [run_bind_ok (run_pure w (chosen before enable)), Noted.result_bind_ok hbefore]
  cases hchosen : chosen before enable with
  | error message =>
    obtain ⟨hhook, hfails⟩ := @fails_before install before after _ _ hchosen w
    refine ⟨[.before enable], _, w, rfl, by rw [hhook]; rfl, ?_⟩
    have hevents : eventsOf before after enable = [] ++ .before enable :: [] := by
      simp [eventsOf, hchosen, hhook]
    exact .failed hevents (.nil w) hfails
  | ok installer =>
    have hevents : eventsOf before after enable = hooked before (.before enable) ++
        .install enable.name installer :: hooked after (.after enable.name) := by
      simp [eventsOf, hchosen]
    have hpassed := @passAll_before install before after _ _ hchosen w
    dsimp only
    cases hrun : run w (install enable.name installer) with
    | mk r w1 =>
      have hinstall : Noted.result w (events ++ hooked before (.before enable))
          (notedBy install enable.name installer) =
            ((r, events ++ hooked before (.before enable) ++ [.install enable.name installer]),
              w1) :=
        Noted.result_of hrun _
      cases r with
      | error stop =>
        rw [run_bind, hrun, Noted.result_bind_error hinstall]
        refine ⟨_, _, w1, rfl, by rw [List.append_assoc], .failed hevents hpassed (.install hrun)⟩
      | ok _ =>
        replace hpassed := hpassed.append (.single (.install hrun))
        have hlook : Noted.result w1 (events ++ hooked before (.before enable) ++
            [.install enable.name installer]) (notedAfter after enable.name) =
              ((.ok (looked after enable.name), events ++ hooked before (.before enable) ++
                [.install enable.name installer] ++ hooked after (.after enable.name)),
                seen after w1 enable.name) := Noted.result_of (run_runAfter w1 enable.name) _
        rw [run_bind_ok hrun, Noted.result_bind_ok hinstall,
          run_bind_ok (run_runAfter w1 enable.name), Noted.result_bind_ok hlook]
        cases hlooked : looked after enable.name with
        | error message =>
          obtain ⟨hhook, hfails⟩ := @fails_after install before after _ _ hlooked w1
          have hlast : eventsOf before after enable = hooked before (.before enable) ++
              [.install enable.name installer] ++ .after enable.name :: [] := by
            simp [hevents, hhook]
          refine ⟨_, _, _, rfl, ?_, .failed hlast hpassed hfails⟩
          rw [hhook]
          simp [Noted.result]
          rfl
        | ok _ =>
          replace hpassed := hpassed.append (passAll_after hlooked w1)
          rw [show hooked before (.before enable) ++ [.install enable.name installer] ++
            hooked after (.after enable.name) = eventsOf before after enable by simp [hevents]]
            at hpassed
          refine ⟨_, _, _, rfl, ?_, .installed hpassed⟩
          rw [hevents]
          simp [Noted.result]
          rfl

/-- The same of several modules. -/
theorem noted_all (modules : List Enable) (w : World) (events : List Event) :
    ∃ made result w' behind,
      run w (installAll (fun enable => pure (chosen before enable)) install (runAfter after)
        modules) = (result, w') ∧
      Noted.result w events (installAll (notedBefore before) (notedBy install) (notedAfter after)
        modules) = ((result, events ++ made), w') ∧
      Ends install before after modules w made result w' behind := by
  induction modules generalizing w events with
  | nil => exact ⟨[], _, w, [], rfl, by rw [List.append_nil]; rfl, .all (.nil w)⟩
  | cons enable rest ih =>
    obtain ⟨made, result, w', hrun, hnoted, hone⟩ :=
      @noted_one install before after enable w events
    rw [installAll_cons, installAll_cons, run_bind, hrun]
    cases hone with
    | failed hevents hpass hfails =>
      have hends := Ends.first rest hevents hpass hfails
      have hnot := hfails.ne_ok
      match result with
      | .error stop =>
        refine ⟨_, _, w', rest, rfl, Noted.result_bind_error hnoted _, hends⟩
      | .ok (.error failure) =>
        refine ⟨_, _, w', rest, rfl, ?_, hends⟩
        rw [Noted.result_bind_ok hnoted]
        rfl
      | .ok (.ok ()) => exact absurd rfl hnot
    | installed hpass =>
      rw [Noted.result_bind_ok hnoted]
      obtain ⟨more, result, w'', behind, hrest, hmore, hends⟩ :=
        ih w' (events ++ eventsOf before after enable)
      refine ⟨eventsOf before after enable ++ more, result, w'', behind, hrest, ?_,
        .cons hpass hends⟩
      rw [← List.append_assoc]
      exact hmore

end

/-- The events of an installation, its end, and the world that it leaves. -/
structure Played where
  events : List Event
  result : Except Stop (Except HookFailure Unit)
  world : World

/-- The installation of the builtin modules, as its record tells it. -/
def play (install : String → Installer → Machine Unit) (before : Option BeforeHook)
    (after : Option AfterHook) (w : World) : Played :=
  let played := Noted.result w [] (notedInstall install before after)
  ⟨played.1.2, played.1.1, played.2⟩

/-- The world in which the guest knows `require`. -/
def requiring (w : World) : World :=
  { w with heap := w.heap.modify Place.global (·.put "require" (.object Place.requireFunction)) }

theorem run_enableRequire (w : World) : run w enableRequire = (.ok (), requiring w) := rfl

/-- The record changes nothing of the installation, and tells its events up to the first that
fails. -/
theorem play_ends (install : String → Installer → Machine Unit) (before : Option BeforeHook)
    (after : Option AfterHook) (w : World) :
    let played := play install before after w
    run w (installModulesBy install before after) = (played.result, played.world) ∧
      ∃ behind, Ends install before after enables (requiring w) played.events played.result
        played.world behind := by
  obtain ⟨made, result, w', behind, hrun, hnoted, hends⟩ :=
    @noted_all install before after enables (requiring w) []
  have hplay : play install before after w = ⟨made, result, w'⟩ := by
    unfold play notedInstall
    rw [Noted.result_bind_ok (Noted.result_of (run_enableRequire w) []), hnoted]
    rfl
  simp only [hplay]
  refine ⟨?_, behind, hends⟩
  unfold installModulesBy
  rw [run_bind_ok (run_enableRequire w), hrun]

end GuestLint.Lint
