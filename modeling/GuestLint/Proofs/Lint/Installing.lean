import GuestLint.Proofs.Guest.Loading
import GuestLint.Proofs.Lint.Events

/-!
# The order of an installation

An installation comes to the first event that fails, and to nothing behind it. Installers that
register only their own module therefore leave the modules behind it unregistered. In a lint run
the settings, the directory and the engine come before any event.

* `RegistersOwn`, `install_registersOwn`: the installers of the builtin modules are of this kind.
* `Ends.unregistered`: behind the first failure no module is registered.
* `notedLint`: a lint run with the record of its events; `notedLint_lint`: it is the same run.
* `installs_in_order`: all of it, for any hooks and installers.
-/
namespace GuestLint.Lint

open Diagnostics (Captured)
open Guest

/-! ## Registered modules -/

/-- Installers that register no module but their own: what is registered under other names stays,
and so does what other names stand for. -/
def RegistersOwn (install : String → Installer → Machine Unit) : Prop :=
  ∀ (w : World) (module : String) (installer : Installer) (name : String),
    let g := (run w (install module installer)).2.registry
    (name ≠ module → g.natives.lookup name = w.registry.natives.lookup name) ∧
      (name ≠ Registry.namespaced module → g.aliases.lookup name = w.registry.aliases.lookup name)

section
variable {name : String}

/-- The installers of the builtin modules register no module but their own, although they require
it. -/
theorem install_registersOwn : RegistersOwn Installer.install := by
  intro w module installer name
  let J : Registry → Prop := fun g =>
    (name ≠ module → g.natives.lookup name = w.registry.natives.lookup name) ∧
      (name ≠ Registry.namespaced module → g.aliases.lookup name = w.registry.aliases.lookup name)
  have : Records J := ⟨fun _ h _ => h⟩
  have hregister : ∀ b g, J g → J (g.registerBuiltin module (.builtin b)) := by
    rintro b g ⟨hnatives, haliases⟩
    refine ⟨fun hne => ?_, fun hne => ?_⟩
    · show ((module, Native.builtin b) :: g.natives.filter (·.1 ≠ module)).lookup name = _
      rw [lookup_cons, if_neg hne, lookup_filter_ne, if_neg hne, hnatives hne]
    · show (g.enter (.builtin module (.builtin b))).aliases.lookup name = _
      rw [Registry.lookup_enter_builtin, if_neg hne, haliases hne]
  have hkeeps : Keeps J (installer.install module) := by
    cases installer with
    | builtin b => exact keeps_installBuiltin (hregister b)
    | skip => exact .pure ()
    | unconfigured message => exact .throw _
  exact hkeeps.keeps w ⟨fun _ => rfl, fun _ => rfl⟩

/-- A module of which nothing is known, under its name and under its namespaced name. -/
structure Unknown (g : Registry) (name : String) : Prop where
  native : g.natives.lookup name = none
  namespacedNative : g.natives.lookup (Registry.namespaced name) = none
  alias_ : g.aliases.lookup name = none
  namespacedAlias : g.aliases.lookup (Registry.namespaced name) = none

theorem Unknown.not_registered {g : Registry} (h : Unknown g name) :
    g.isRegistered name = false ∧ g.isRegistered (Registry.namespaced name) = false := by
  unfold Registry.isRegistered Registry.resolve
  rw [h.alias_, h.namespacedAlias]
  simp [h.native, h.namespacedNative]

/-- Names of which none is the other one, or stands for it. -/
structure Unrelated (name module : String) : Prop where
  ne : name ≠ module
  namespaced_ne : Registry.namespaced name ≠ module
  ne_namespaced : name ≠ Registry.namespaced module

theorem Unknown.install {install : String → Installer → Machine Unit} (h : RegistersOwn install)
    {w w' : World} (hu : Unknown w.registry name) {module : String} {installer : Installer}
    {r : Except Stop Unit} (hrun : run w (install module installer) = (r, w'))
    (hne : Unrelated name module) : Unknown w'.registry name := by
  obtain ⟨hnative, halias⟩ := h w module installer name
  obtain ⟨hnative', halias'⟩ := h w module installer (Registry.namespaced name)
  rw [hrun] at hnative halias hnative' halias'
  exact ⟨(hnative hne.ne).trans hu.native,
    (hnative' hne.namespaced_ne).trans hu.namespacedNative,
    (halias hne.ne_namespaced).trans hu.alias_,
    (halias' fun heq => hne.ne (Registry.namespaced_injective heq)).trans hu.namespacedAlias⟩

end

section
variable {install : String → Installer → Machine Unit} {before : Option BeforeHook}
  {after : Option AfterHook} {w w' : World} {name : String}

theorem Unknown.passes (h : RegistersOwn install) (hu : Unknown w.registry name) {event : Event}
    (hne : Unrelated name event.module) (hpass : Passes install before after w event w') :
    Unknown w'.registry name := by
  cases hpass with
  | before => exact hu
  | after => exact hu
  | install hrun => exact hu.install h hrun hne

theorem Unknown.passAll (h : RegistersOwn install) {events : List Event}
    (hu : Unknown w.registry name) (hpass : PassAll install before after w events w')
    (hne : ∀ event ∈ events, Unrelated name event.module) : Unknown w'.registry name := by
  induction hpass with
  | nil => exact hu
  | cons hfirst _ ih =>
    exact ih (hu.passes h (hne _ List.mem_cons_self) hfirst)
      fun event he => hne event (List.mem_cons_of_mem _ he)

theorem Unknown.fails (h : RegistersOwn install) (hu : Unknown w.registry name) {event : Event}
    {result : Except Stop (Except HookFailure Unit)} (hne : Unrelated name event.module)
    (hfails : Fails install before after w event result w') : Unknown w'.registry name := by
  cases hfails with
  | before => exact hu
  | after => exact hu
  | install hrun => exact hu.install h hrun hne

theorem module_of_mem_eventsOf {enable : Enable} {event : Event}
    (h : event ∈ eventsOf before after enable) : event.module = enable.name := by
  have hhook : ∀ {γ : Type} {hook : Option γ} {other : Event}, event ∈ hooked hook other →
      event = other := by
    intro γ hook other hm
    cases hook with
    | none => cases hm
    | some f => exact List.mem_singleton.mp hm
  unfold eventsOf at h
  rcases List.mem_append.mp h with hm | hm
  · rw [hhook hm]
    rfl
  · split at hm
    · rcases List.mem_cons.mp hm with rfl | hm
      · rfl
      · rw [hhook hm]
        rfl
    · cases hm

/-- The builtin modules have names of their own. -/
theorem enables_unrelated {front behind : List Enable} {enable : Enable}
    (h : enables = front ++ enable :: behind) {later earlier : Enable} (hlater : later ∈ behind)
    (hearlier : earlier ∈ front ++ [enable]) : Unrelated later.name earlier.name := by
  have hspaces : ∀ a ∈ enables, ∀ b ∈ enables, a.name ≠ Registry.namespaced b.name := by
    decide +kernel
  have hnames : enables.Pairwise fun a b => a.name ≠ b.name := by decide +kernel
  have hsplit : enables = (front ++ [enable]) ++ behind := by simp [h]
  have hmem : later ∈ enables ∧ earlier ∈ enables := by
    rw [hsplit]
    exact ⟨List.mem_append_right _ hlater, List.mem_append_left _ hearlier⟩
  rw [hsplit, List.pairwise_append] at hnames
  exact ⟨(hnames.2.2 earlier hearlier later hlater).symm,
    (hspaces earlier hmem.2 later hmem.1).symm, hspaces later hmem.1 earlier hmem.2⟩

/-- **Registered modules.** Behind an event that fails no builtin module is registered. -/
theorem Ends.unregistered {events : List Event} {result : Except Stop (Except HookFailure Unit)}
    {behind : List Enable} (h : Ends install before after enables w events result w' behind)
    (hown : RegistersOwn install) (hfresh : w.registry.natives = [] ∧ w.registry.aliases = [])
    {later : Enable} (hlater : later ∈ behind) :
    w'.registry.isRegistered later.name = false ∧
      w'.registry.isRegistered (Registry.namespaced later.name) = false := by
  cases h with
  | all => cases hlater
  | @failed front enable _ part failing rest between _ _ hmodules hevents hpass hfails =>
    have hstart : Unknown w.registry later.name := by
      constructor <;> simp [hfresh]
    have hone : ∀ event ∈ part ++ failing :: rest, Unrelated later.name event.module := by
      intro event he
      rw [module_of_mem_eventsOf (hevents ▸ he)]
      exact enables_unrelated hmodules hlater (List.mem_append_right _ (List.mem_singleton_self _))
    refine (((Unknown.passAll hown hstart hpass ?_).fails hown ?_ hfails)).not_registered
    · intro event he
      rcases List.mem_append.mp he with he | he
      · obtain ⟨earlier, hearlier, he⟩ := List.mem_flatMap.mp he
        rw [module_of_mem_eventsOf he]
        exact enables_unrelated hmodules hlater (List.mem_append_left _ hearlier)
      · exact hone event (List.mem_append_left _ he)
    · exact hone failing (List.mem_append_right _ List.mem_cons_self)

end

/-! ## Lint runs -/

section
variable {α : Type} (install : String → Installer → Machine Unit) (watchdog : Watchdog)
  (now : Instant)

/-- What a run makes of the end of an installation. -/
def reportEnd (result : Except Stop (Except HookFailure Unit)) : Run Unit := do
  match ← stage watchdog now (ofExcept result) with
  | .error failure => throw (.hook failure)
  | .ok () => pure ()

/-- Installs the builtin modules in a run, with a record of the events. -/
def notedLoad (before : Option BeforeHook) (after : Option AfterHook) : Noted LintError Unit :=
  fun events w =>
    let played := Noted.result w events (notedInstall install before after)
    Noted.result played.2 played.1.2 (.of (reportEnd watchdog now played.1.1))

/-- A run of the linter with a record of the events. -/
def notedConfig (context : HostContext) (config : Config) (documents : List String)
    (ruleset : String) : Noted LintError Report := do
  let watchdog ← .of (startEngine context config)
  notedLoad install watchdog (context.clock 0) config.before config.after
  .of (runBundleWithin maxLooks context config watchdog documents ruleset)

/-- Lints documents by the given installers, with a record of the events. -/
def notedLint (context : HostContext) (documents : List String) (ruleset : String)
    (options : List LintOption) : (Except LintError Report × List Event) × World :=
  match settle context options with
  | .error e => ((.error e, []), startWorld context Modules.loadNothing)
  | .ok config =>
    Noted.result (startWorld context (bundleLoader context.host config.dist)) []
      (notedConfig install context config documents ruleset)

/-- A stage looks at the end of its computation only. -/
theorem run_stage_end {w w' : World} {x : Machine α} {r : Except Stop α}
    (h : run w x = (r, w')) :
    (stage watchdog now x).run.run w = (stage watchdog now (ofExcept r)).run.run w' := by
  have hend : run w' (ofExcept r : Machine α) = (r, w') := by cases r <;> rfl
  unfold stage
  rw [run_bind_stage, run_bind_stage, run_lift, run_lift, h, hend]

theorem run_loadModules {w w' : World} {before : Option BeforeHook} {after : Option AfterHook}
    {r : Except Stop (Except HookFailure Unit)}
    (h : run w (installModules before after) = (r, w')) :
    (loadModules watchdog now before after).run.run w =
      (reportEnd watchdog now r).run.run w' := by
  unfold loadModules reportEnd
  refine (run_bind_stage _ _ _).trans ?_
  rw [run_stage_end watchdog now h]
  exact (run_bind_stage _ _ _).symm

theorem result_notedLoad (before : Option BeforeHook) (after : Option AfterHook) (w : World) :
    let played := play install before after w
    Noted.result w [] (notedLoad install watchdog now before after) =
      Noted.result played.world played.events (.of (reportEnd watchdog now played.result)) := rfl

end

section
variable {context : HostContext} {config : Config} {watchdog : Watchdog} {w w' : World}

/-- An engine that starts does so with a watchdog that lets the run go on. -/
theorem check_of_startEngine (h : (startEngine context config).run.run w = (.ok watchdog, w')) :
    watchdog.check (context.clock 0) = .ok () := by
  obtain ⟨r, hrun, hstarts⟩ := run_startEngine_starts context config w
  cases hrun.symm.trans h
  cases hstarts with
  | ready _ hcheck => exact hcheck

/-- An exception that ends a stage is captured. -/
theorem run_stage_thrown {α : Type} {now : Instant} {x : Machine α} {w'' : World} {v : Value}
    {captured : Captured} (hcheck : watchdog.check now = .ok ())
    (hrun : run w x = (.error (.thrown v), w'))
    (hcapture : run w' (capture engineCall v) = (.ok captured, w'')) :
    (stage watchdog now x).run.run w = (.error (.evaluate captured), w'') := by
  unfold stage
  rw [run_bind_stage, run_lift, hrun]
  dsimp only
  rw [hcheck]
  dsimp only
  rw [run_bind_stage, run_lift, hcapture]
  rfl

theorem run_reportEnd_thrown {now : Instant} {v : Value} {captured : Captured}
    (hcheck : watchdog.check now = .ok ())
    (hcapture : run w (capture engineCall v) = (.ok captured, w')) :
    (reportEnd watchdog now (.error (.thrown v))).run.run w =
      (.error (.evaluate captured), w') := by
  have hthrown : run w (ofExcept (.error (.thrown v)) : Machine (Except HookFailure Unit)) =
      (.error (.thrown v), w) := rfl
  unfold reportEnd
  rw [run_bind_stage, run_stage_thrown hcheck hthrown hcapture]

end

section
variable (install : String → Installer → Machine Unit) (context : HostContext)
  (documents : List String) (ruleset : String)

/-- Without an engine there is no installation. -/
theorem notedConfig_unstarted {config : Config} {w w' : World} {e : LintError}
    (h : (startEngine context config).run.run w = (.error e, w')) :
    Noted.result w [] (notedConfig install context config documents ruleset) =
      ((.error e, []), w') := by
  unfold notedConfig
  rw [Noted.result_bind_error (Noted.result_of h [])]

theorem notedConfig_started {config : Config} {watchdog : Watchdog} {w w' : World}
    (h : (startEngine context config).run.run w = (.ok watchdog, w')) :
    let played := play install config.before config.after w'
    let told := (reportEnd watchdog (context.clock 0) played.result).run.run played.world
    Noted.result w [] (notedConfig install context config documents ruleset) =
      match told with
      | (.error e, w) => ((.error e, played.events), w)
      | (.ok (), w) =>
        let rest := (runBundleWithin maxLooks context config watchdog documents ruleset).run.run w
        ((rest.1, played.events), rest.2) := by
  intro played told
  unfold notedConfig
  rw [Noted.result_bind_ok (Noted.result_of h []), Noted.result_bind, result_notedLoad]
  cases htold : told with
  | mk r w =>
    rw [Noted.result_of htold]
    cases r <;> rfl

/-- The record changes nothing of a lint run. -/
theorem notedLint_lint (options : List LintOption) :
    let noted := notedLint Installer.install context documents ruleset options
    (noted.1.1, noted.2) = lint context documents ruleset options := by
  unfold notedLint lint lintWithin
  cases settle context options with
  | error e => rfl
  | ok config =>
    dsimp only
    generalize startWorld context (bundleLoader context.host config.dist) = w
    show _ = (runConfigWithin maxLooks context config documents ruleset).run.run w
    unfold runConfigWithin
    rw [run_bind_stage]
    cases hstart : (startEngine context config).run.run w with
    | mk r w1 =>
      cases r with
      | error e => rw [notedConfig_unstarted _ _ _ _ hstart]
      | ok watchdog =>
        have hplay := (play_ends Installer.install config.before config.after w1).1
        rw [installModulesBy_install] at hplay
        dsimp only
        rw [notedConfig_started _ _ _ _ hstart, run_bind_stage, run_loadModules _ _ hplay]
        cases (reportEnd watchdog (context.clock 0) _).run.run _ with
        | mk r w2 =>
          cases r with
          | error e => rfl
          | ok u =>
            cases u
            dsimp only
            exact Prod.eta _

end

/-- What happens in an installation is the schedule up to the first event that fails, and that event
decides how the installation ends. Behind it no builtin module is registered. -/
structure InstallsInOrder (install : String → Installer → Machine Unit)
    (before : Option BeforeHook) (after : Option AfterHook) (w : World) (played : Played) :
    Prop where
  /-- The events are told of the installation itself. -/
  unchanged : run w (installModulesBy install before after) = (played.result, played.world)
  ends : ∃ behind,
    Ends install before after enables (requiring w) played.events played.result played.world
      behind ∧
    (RegistersOwn install → w.registry.natives = [] → w.registry.aliases = [] → ∀ later ∈ behind,
      played.world.registry.isRegistered later.name = false ∧
        played.world.registry.isRegistered (Registry.namespaced later.name) = false)
  ok_iff : played.result = .ok (.ok ()) ↔ ¬ ∃ event ∈ played.events, ∃ between,
    Fails install before after between event played.result played.world

/-- What happens in a lint run: refused settings and an unknown directory come before any event,
and so does an engine that does not start. Otherwise the events are those of the installation, and
its failure is the failure of the run. -/
structure LintsInOrder (install : String → Installer → Machine Unit) (context : HostContext)
    (options : List LintOption)
    (noted : (Except LintError Report × List Event) × World) : Prop where
  refused : ∀ applied failing later config cause, options = applied ++ failing :: later →
    Config.ofOptions applied = .ok config → failing config = .error cause →
      noted = ((.error (.config cause), []), startWorld context Modules.loadNothing)
  homeless : ∀ config cause, Config.ofOptions options = .ok config →
    config.workingDirectory = "" → context.currentPath = .error cause →
      noted = ((.error (.workingDirectory cause), []), startWorld context Modules.loadNothing)
  unstarted : ∀ config e w, settle context options = .ok config →
    (startEngine context config).run.run
        (startWorld context (bundleLoader context.host config.dist)) = (.error e, w) →
      noted = ((.error e, []), w)
  installs : ∀ config watchdog w, settle context options = .ok config →
    (startEngine context config).run.run
        (startWorld context (bundleLoader context.host config.dist)) = (.ok watchdog, w) →
      let played := play install config.before config.after w
      noted.1.2 = played.events ∧
        (∀ failure, played.result = .ok (.error failure) → noted.1.1 = .error (.hook failure)) ∧
        ∀ v captured w', played.result = .error (.thrown v) →
          run played.world (capture engineCall v) = (.ok captured, w') →
            noted.1.1 = .error (.evaluate captured)

section
variable (install : String → Installer → Machine Unit)

theorem play_inOrder (before : Option BeforeHook) (after : Option AfterHook) (w : World) :
    InstallsInOrder install before after w (play install before after w) := by
  obtain ⟨hunchanged, behind, hends⟩ := play_ends install before after w
  refine ⟨hunchanged, ⟨behind, hends, fun hown hnatives haliases later hlater => ?_⟩, ?_⟩
  · exact hends.unregistered hown ⟨hnatives, haliases⟩ hlater
  · generalize (play install before after w).events = events,
      (play install before after w).result = result,
      (play install before after w).world = w' at hends
    constructor
    · rintro hok ⟨event, -, between, hfails⟩
      exact hfails.ne_ok hok
    · intro hnone
      cases hends with
      | all => rfl
      | failed hmodules hevents hpass hfails =>
        exact absurd ⟨_, List.mem_append_right _ (List.mem_singleton_self _), _, hfails⟩ hnone

/-- The first option that is refused ends the settings, whatever comes behind it. -/
theorem ofOptions_refused {applied later : List LintOption} {failing : LintOption} {config : Config}
    {cause : ConfigError} (happlied : Config.ofOptions applied = .ok config)
    (hfailing : failing config = .error cause) :
    Config.ofOptions (applied ++ failing :: later) = .error cause := by
  unfold Config.ofOptions at happlied ⊢
  rw [List.foldlM_append, happlied]
  simp [bind, Except.bind, hfailing]

theorem notedLint_inOrder (context : HostContext) (documents : List String) (ruleset : String)
    (options : List LintOption) :
    LintsInOrder install context options
      (notedLint install context documents ruleset options) := by
  have hsettled : ∀ config, settle context options = .ok config →
      notedLint install context documents ruleset options =
        Noted.result (startWorld context (bundleLoader context.host config.dist)) []
          (notedConfig install context config documents ruleset) := by
    intro config hsettle
    unfold notedLint
    rw [hsettle]
  have hunsettled : ∀ e, settle context options = .error e →
      notedLint install context documents ruleset options =
        ((.error e, []), startWorld context Modules.loadNothing) := by
    intro e hsettle
    unfold notedLint
    rw [hsettle]
  constructor
  · intro applied failing later config cause hoptions happlied hfailing
    refine hunsettled _ ?_
    unfold settle
    rw [hoptions, ofOptions_refused happlied hfailing]
    rfl
  · intro config cause hconfig hdirectory hpath
    refine hunsettled _ ?_
    unfold settle
    rw [hconfig]
    change (if config.workingDirectory = "" then (_ : Except LintError Config) else _) = _
    rw [if_pos hdirectory, hpath]
    rfl
  · intro config e w hsettle hstart
    rw [hsettled config hsettle, notedConfig_unstarted _ _ _ _ hstart]
  · intro config watchdog w hsettle hstart
    have hcheck := check_of_startEngine hstart
    rw [hsettled config hsettle, notedConfig_started _ _ _ _ hstart]
    refine ⟨?_, ?_, ?_⟩
    · split <;> rfl
    · intro failure hresult
      rw [hresult]
      rfl
    · intro v captured w' hresult hcapture
      rw [hresult, run_reportEnd_thrown hcheck hcapture]

end

/-- **Order of an installation.** For every hook and all installers: the events of an installation
are the schedule up to the first that fails, with each module installed as its hook chose; the
result is good when none fails, else it names the hook's module and carries its message, or is what
the installer threw; and no module behind is registered. A lint run ends before any event when an
option is refused or its directory is unknown. -/
theorem installs_in_order (install : String → Installer → Machine Unit)
    (before : Option BeforeHook) (after : Option AfterHook) (w : World) (context : HostContext)
    (documents : List String) (ruleset : String) (options : List LintOption) :
    InstallsInOrder install before after w (play install before after w) ∧
      LintsInOrder install context options (notedLint install context documents ruleset options) ∧
      installModulesBy Installer.install before after = installModules before after ∧
      let noted := notedLint Installer.install context documents ruleset options
      (noted.1.1, noted.2) = lint context documents ruleset options :=
  ⟨play_inOrder install before after w, notedLint_inOrder install context documents ruleset options,
    installModulesBy_install before after, notedLint_lint context documents ruleset options⟩

/-! ### A hook that refuses a module -/

/-- Installs nothing, and refuses one module. -/
def refuseUrl : BeforeHook := fun enable =>
  if enable.name = "url" then .error "no urls today" else .ok .skip

/-- The installation ends with the module that the hook refuses, and the modules behind it are not
registered. -/
theorem installs_in_order_refused :
    let w : World := { surroundings := bareSurroundings }
    let played := play Installer.install (some refuseUrl) none w
    RegistersOwn Installer.install ∧ w.registry.natives = [] ∧ w.registry.aliases = [] ∧
      played.result = .ok (.error (.before "url" "no urls today")) ∧
      played.events.map Event.module =
        ["util", "util", "stream", "stream", "http", "http", "https", "https", "zlib", "zlib",
          "url"] ∧
      InstallsInOrder Installer.install (some refuseUrl) none w played := by
  intro w played
  refine ⟨install_registersOwn, rfl, rfl, rfl, by decide +kernel, ?_⟩
  exact (installs_in_order Installer.install (some refuseUrl) none w
    { host := Host.Tree.access {}, currentPath := .ok "/" } [] "r" []).1

end GuestLint.Lint
