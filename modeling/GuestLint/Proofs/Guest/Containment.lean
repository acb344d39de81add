import GuestLint.Guest.Engine
import GuestLint.Proofs.Builtin.Guards

/-!
# Guests reach nothing hidden

A call of the engine stays within, at every depth of nesting, when what is called and what it is
given is clear. So whatever a guest does, it leaves alone what it cannot reach, and the turns of the
event loop do as well.

* `contained_invoke`, `contained_engineCall`: calls stay within.
* The instances for `installBuiltin` and `enableRequire`: making a world ready for guests does too.
* `stays_turns`: turns of the event loop; `own_comes_to_front`: when it is the turn of a job that
  the guest has no hold of.
-/
namespace GuestLint.Guest

variable {s : Seal} {n : Nat}

set_option synthInstance.maxSize 2048

instance (f : Registry → Registry) : Guards s n (modifyRegistry f) :=
  .changePlain fun _ => rfl

instance : Refers ModuleScope where
  clear s n scope := Visible s n scope.module ∧ Refers.clear s n scope.exports
  map hs h := ⟨hs.visible h.1, Refers.map hs h.2⟩

instance {module : Ref} {exports : Value} {file : Option (String × String)}
    [hm : Visible s n module] [he : Clear s n exports] :
    Clear s n (ModuleScope.mk module exports file) := ⟨hm, he.clear⟩

instance : Refers PendingWrite where
  clear s n write := Refers.clear s n write.stream ∧ Refers.clear s n write.chunk ∧
    Refers.clear s n write.callback
  map hs h := ⟨Refers.map hs h.1, Refers.map hs h.2.1, Refers.map hs h.2.2⟩

instance {stream chunk callback : Value} [hs : Clear s n stream] [hc : Clear s n chunk]
    [hb : Clear s n callback] : Clear s n (PendingWrite.mk stream chunk callback) :=
  ⟨hs.clear, hc.clear, hb.clear⟩

/-! ## Steps of modules -/

instance (line character : Nat) : Guards s n (positionObject line character) := by
  unfold positionObject
  infer_instance

instance (line first last : Nat) : Guards s n (rangeObject line first last) := by
  unfold rangeObject
  infer_instance

instance (name : String) : Guards s n (globalValue name) := by
  unfold globalValue
  infer_instance

section
variable {call : Call} [Contained s call]

instance (name : String) : Guards s n (callRequire call name) := by
  unfold callRequire
  infer_instance

instance (code : String) (path : Value) [Clear s n path] (message : String) (severity : Nat) :
    Guards s n (violationText call code path message severity) := by
  have hjson : ∀ {n} (json : Option String), Guards s n (match json with
      | some json => pure (.text json)
      | none => pure .undefined : Machine Value) := fun json => by
    cases json <;> infer_instance
  unfold violationText
  infer_instance

instance : Guards s n (bundleResults call) := by
  unfold bundleResults
  refine Guards.andThen inferInstance fun k hle bundle _ => ?_
  refine Guards.andThenAt inferInstance fun k hle promise _ => ?_
  refine Guards.andThen inferInstance fun k hle outcome _ => ?_
  cases outcome <;> infer_instance

instance (completion : Completion) : Guards s n (completion.run call) := by
  cases completion <;>
  · unfold Completion.run
    infer_instance

section
variable (scope : ModuleScope) [hscope : Clear s n scope]

instance : Visible s n scope.module := hscope.clear.1

instance : Clear s n scope.exports := ⟨hscope.clear.2⟩

instance : Guards s n (scope.description call) := by
  unfold ModuleScope.description
  dsimp only
  infer_instance

instance (key : String) (v : Value) [Clear s n v] : Guards s n (scope.export key v) := by
  unfold ModuleScope.export
  infer_instance

end

instance (files : Value) [Clear s n files] (path : String) :
    Yields s n (readPromised call files path) := by
  unfold readPromised
  infer_instance

instance : Guards s n (startSampleLinter call) := by
  unfold startSampleLinter
  infer_instance

instance (scope : ModuleScope) [Clear s n scope] (step : Step) :
    Guards s n (step.run call scope) := by
  cases step with
  | require name key =>
    unfold Step.run
    cases key <;> infer_instance
  | tryRequire name =>
    unfold Step.run
    refine Guards.andThen inferInstance fun k hle outcome _ => ?_
    cases outcome <;> infer_instance
  | _ =>
    unfold Step.run
    infer_instance

instance (scope : ModuleScope) [hscope : Clear s n scope] (file : Option String) (line : Nat)
    (value : Value) [hvalue : Clear s n value] (body : Script) :
    Guards s n (runSteps call scope file line value body) := by
  induction body generalizing n line value with
  | nil => exact .pure _
  | cons step rest ih =>
    have hrest : ∀ k (_ : n ≤ k) (result : Option Value) (_ : Refers.clear s k result),
        Guards s k (runSteps call scope file (line + 1) (result.getD value) rest) :=
      fun k hle result hresult => by
        have : Clear s k scope := ⟨Refers.mono hle hscope.clear⟩
        have : Clear s k result := ⟨hresult⟩
        have : Clear s k value := ⟨Refers.mono hle hvalue.clear⟩
        exact ih (line + 1) (result.getD value)
    unfold runSteps
    cases file <;> exact Guards.andThen inferInstance hrest

/-! ## Loading modules -/

instance (name : String) : Guards s n (raiseMissing name) := by
  unfold raiseMissing
  infer_instance

section
variable (entry : Ref) [hentry : Visible s n entry]

instance (name text : String) (exports : Value) [hexports : Clear s n exports] :
    Guards s n (runSource call name text entry exports) := by
  unfold runSource
  refine Guards.andThen inferInstance fun k hle _ _ => ?_
  refine Guards.andThen inferInstance fun k' hle' w _ => ?_
  cases w.surroundings.compile text <;> infer_instance

instance (id : String) : Guards s n (runModule call id entry) := by
  unfold runModule
  refine Guards.andThen inferInstance fun k hle w _ => ?_
  refine Guards.andThen inferInstance fun k' hle' exports _ => ?_
  split
  · infer_instance
  · infer_instance
  · split <;> infer_instance

end

omit [Contained s call] in
/-- An entry that is found in the cache is visible. -/
theorem ensures_lookup (id : String) :
    Ensures s n (fun m found => ∀ entry, found = some entry → Visible s m entry)
      ((moduleCache call).lookup id) := by
  unfold moduleCache
  refine ensures_heap.bind fun m h _ hh => ?_
  have : Clear s m h := ⟨hh⟩
  have hown : Clear s m (h.own? Place.moduleCache id) := inferInstance
  split
  · rename_i entry hentry
    rw [hentry] at hown
    have hentry : Visible s m entry := hown.of_some.clear
    exact .pure fun k hle e he => by
      cases he
      exact hentry.mono hle
  · exact .pure fun _ _ _ he => absurd he.symm (Option.some_ne_none _)

/-- A require reaches what the body that it runs reaches. -/
theorem guards_require (name : String) : Guards s n ((moduleCache call).require Stop name) := by
  have hload : ∀ {n} id, Guards s n ((moduleCache call).load Stop id) := by
    intro n id
    unfold Modules.Cache.load moduleCache
    infer_instance
  have hexports : ∀ {n} entry [Visible s n entry],
      Guards s n ((moduleCache call).exports entry) := by
    intro n entry _
    unfold moduleCache
    infer_instance
  have hresolve : Guards s n ((moduleCache call).resolve name) := by
    unfold moduleCache
    infer_instance
  unfold Modules.Cache.require
  refine hresolve.andThen fun k hle id _ => ⟨(ensures_lookup id).bind fun m found _ hfound => ?_⟩
  cases found with
  | some entry =>
    have := hfound entry rfl
    exact (hexports entry).ensures
  | none => exact (hload id).ensures

instance (name : Value) [Clear s n name] : Guards s n (requireModule call name) := by
  have hrequire : ∀ {n} name, Guards s n ((moduleCache call).require Stop name) :=
    guards_require
  unfold requireModule
  infer_instance

end

/-! ## What the language provides -/

instance (v : Value) [Clear s n v] : Guards s n (functionText v) := by
  unfold functionText
  refine Guards.andThen inferInstance fun k hle name _ => ?_
  split <;> infer_instance

section
variable {call : Call} [Contained s call]

instance (f : Intrinsic) (this : Value) [Clear s n this] (args : List Value)
    [Clear s n args] : Guards s n (runIntrinsic call f this args) := by
  have hfirst : Clear s n (argAt args 0) := inferInstance
  unfold runIntrinsic
  cases f with
  | listJoin =>
    revert hfirst
    generalize argAt args 0 = separator
    intro _
    cases separator <;> infer_instance
  | makeError name =>
    revert hfirst
    generalize argAt args 0 = message
    intro _
    cases message <;> infer_instance
  | _ => infer_instance

instance (f : Value) [Clear s n f] (args : List Value) [Clear s n args] :
    Guards s n (construct call f args) := by
  have hanswer : ∀ {n} (r : Ref) (answer : Value) [Visible s n r] [Clear s n answer],
      Guards s n (match answer with
      | .object other => pure (.object other)
      | _ => pure (.object r) : Machine Value) := by
    intro n r answer _ _
    cases answer <;> infer_instance
  unfold construct
  refine Guards.andThen inferInstance fun k hle h _ => ?_
  split
  · infer_instance
  · split
    · refine Guards.andThen inferInstance fun k hle prototype _ => ?_
      cases prototype <;> infer_instance
    · infer_instance
  · infer_instance

/-! ## Streams in programs -/

instance (name method : String) (args : List Literal) :
    Guards s n (onStored call name method args) := by
  unfold onStored
  infer_instance

instance (pending : Option PendingWrite) [hpending : Clear s n pending] (step : StreamStep) :
    Guards s n (step.run call pending) := by
  cases step with
  | forward =>
    unfold StreamStep.run
    cases pending with
    | some write =>
      have : Clear s n write.stream := ⟨hpending.of_some.clear.1⟩
      have : Clear s n write.chunk := ⟨hpending.of_some.clear.2.1⟩
      infer_instance
    | none => infer_instance
  | callback args =>
    unfold StreamStep.run
    cases pending with
    | some write =>
      have : Clear s n write.callback := ⟨hpending.of_some.clear.2.2⟩
      infer_instance
    | none => infer_instance
  | defer name =>
    unfold StreamStep.run
    cases pending with
    | some write =>
      have hcallback : Clear s n write.callback := ⟨hpending.of_some.clear.2.2⟩
      have hkeep : Guards s n (modify fun world => { world with
          kept := (name, write.callback) :: world.kept.filter (·.1 ≠ name) } : Machine Unit) :=
        .change (fun _ => rfl) (fun _ => rfl) (fun _ => rfl) fun m w hle h =>
          ⟨h.heap, h.jobs, h.channels, h.stored, fun entry hentry => by
            obtain rfl | hentry := List.mem_cons.mp hentry
            · exact ⟨trivial, Refers.mono hle hcallback.clear⟩
            · exact h.kept entry (List.mem_filter.mp hentry).1⟩
      infer_instance
    | none => infer_instance
  | follow stream method event label times steps failure =>
    have hnew : Guards s n (modifyGet fun w =>
        (w.nextCounter, { w with nextCounter := w.nextCounter + 1 }) : Machine Nat) :=
      .draw (fun _ _ => trivial)
        (.changePlain fun _ => rfl)
    unfold StreamStep.run
    infer_instance
  | _ =>
    unfold StreamStep.run
    infer_instance

instance (pending : Option PendingWrite) [hpending : Clear s n pending]
    (steps : List StreamStep) : Guards s n (runStreamSteps call pending steps) := by
  induction steps generalizing n <;>
  · unfold runStreamSteps
    infer_instance

/-! ## The functions of programs -/

instance (failure : Option String) : Guards s n (failWith failure) := by
  unfold failWith
  cases failure <;> infer_instance

instance (callback : Value) [hcallback : Clear s n callback] (args : List Value)
    [hargs : Clear s n args] (times : Nat) :
    Guards s n (callRepeatedly call callback args times) := by
  induction times generalizing n <;>
  · unfold callRepeatedly
    infer_instance

instance (args : List Value) [Clear s n args] (formatter : Formatter) :
    Guards s n (formatter.run call args) := by
  cases formatter with
  | results =>
    unfold Formatter.run
    refine Guards.andThen inferInstance fun k hle json _ => ?_
    cases json <;> infer_instance
  | _ =>
    unfold Formatter.run
    infer_instance

instance (bundle : Value) [Clear s n bundle] (promise : Ref) [Visible s n promise] (output : Value)
    [Clear s n output] : Guards s n (formatResults call bundle promise output) := by
  unfold formatResults
  infer_instance

instance (promise : Ref) [Visible s n promise] : Guards s n (settledValue promise) := by
  unfold settledValue
  refine Guards.andThen inferInstance fun k hle state hstate => ?_
  split
  · have : Clear s (holding hle hstate) ‹Value› := ⟨hstate _ rfl⟩
    infer_instance
  · have : Clear s (holding hle hstate) ‹Value› := ⟨hstate _ rfl⟩
    infer_instance
  · infer_instance

instance (source : String) (f : Lint.Sample.Finding) : Guards s n (findingObject source f) := by
  unfold findingObject
  infer_instance

/-- The promises of the documents' texts are visible. -/
theorem ensures_reads (workingDirectory : String) (files : Value) [hfiles : Clear s n files]
    (documents : List Value) [hdocuments : Clear s n documents] :
    Ensures s n (fun m reads => ∀ read ∈ reads, Visible s m (Prod.snd read))
      (documents.mapM fun document => do
        let source := Path.resolve [workingDirectory, ← toText call document]
        pure (source, ← readPromised call files source)) := by
  refine .mapM (P := fun m => Refers.clear s m) Refers.mono (fun hle h => h.mono hle)
    hdocuments.clear fun m v hle hv => ?_
  have : Clear s m v := ⟨hv⟩
  refine Ensures.bind (Guards.ensures (x := toText call v)) fun k source hle' _ => ?_
  have : Clear s k files := ⟨Refers.mono (Nat.le_trans hle hle') hfiles.clear⟩
  exact Yields.ensures.bind fun k' read _ hread => .pure fun _ hle'' => hread.mono hle''

theorem ensures_findings (rules : List Lint.Sample.Rule) {reads : List (String × Ref)}
    (hreads : ∀ read ∈ reads, Visible s n (Prod.snd read)) :
    Ensures s n (fun m => Refers.clear s m) (reads.mapM fun (source, promise) => do
      let text ← toText call (← settledValue promise)
      (Lint.Sample.findings rules text).mapM (findingObject source)) := by
  refine .mapM (P := fun m read => Visible s m (Prod.snd read)) (fun hle h => h.mono hle)
    Refers.mono hreads fun k read hle hread => ?_
  exact Guards.ensures

instance (rulesetPath workingDirectory : String) (files ruleset : Value) [Clear s n files]
    [Clear s n ruleset] :
    Guards s n (sampleChecks call rulesetPath workingDirectory files ruleset) := by
  unfold sampleChecks
  refine Guards.andThen inferInstance fun k hle text _ => ?_
  refine Guards.andThen inferInstance fun k hle console _ => ?_
  refine Guards.andThen inferInstance fun k hle _ _ => ?_
  refine Guards.andThen inferInstance fun k hle documents _ => ?_
  refine Guards.andThen inferInstance fun k hle elements _ => ?_
  refine ⟨(ensures_reads workingDirectory files elements).bind fun m reads hle hreads => ?_⟩
  refine (ensures_findings _ hreads).bind fun k findings hle hfindings => ?_
  have : Clear s k findings := ⟨hfindings⟩
  exact Guards.ensures

/-! ## Calls -/

instance (f : EmitterFunction) (this : Value) [Clear s n this] :
    Clear s n (Builtin.runEmitter f this) := by
  cases f <;>
  · unfold Builtin.runEmitter
    infer_instance

instance (f : Function) [hf : Clear s n f] (this : Value) [Clear s n this] (args : List Value)
    [Clear s n args] : Guards s n (perform call f this args) := by
  cases f with
  | stream f channel =>
    have : Clear s n f := ⟨hf.clear⟩
    unfold perform
    infer_instance
  | promisified wrapped =>
    have : Clear s n wrapped := ⟨hf.clear⟩
    unfold perform
    infer_instance
  | promisedResult promise | settle promise round fulfils =>
    have : Visible s n promise := hf.clear
    unfold perform
    infer_instance
  | callbackStyle error value times =>
    have : Clear s n error := ⟨hf.clear.1⟩
    have : Clear s n value := ⟨hf.clear.2⟩
    unfold perform
    infer_instance
  | formatResults bundle promise =>
    have : Clear s n bundle := ⟨hf.clear.1⟩
    have : Visible s n promise := hf.clear.2
    unfold perform
    infer_instance
  | sampleChecks path directory files =>
    have : Clear s n files := ⟨hf.clear⟩
    unfold perform
    infer_instance
  | _ =>
    unfold perform
    infer_instance

end

/-- Calls stay within: each one does by the calls that it nests. -/
instance contained_invoke (depth : Nat) : Contained s (invoke depth) := by
  induction depth with
  | zero => exact ⟨fun _ _ _ _ _ _ _ => inferInstanceAs (Guards _ _ overflow)⟩
  | succ depth ih =>
    refine ⟨fun n f this args hf _ _ => ?_⟩
    unfold invoke
    refine Guards.andThen inferInstance fun k hle h hh => ?_
    have hfunction : Clear s (holding hle hh) (h.function? f) := inferInstance
    split
    · rename_i g hg
      rw [hg] at hfunction
      have := hfunction.of_some
      infer_instance
    · infer_instance

instance contained_engineCall : Contained s engineCall := contained_invoke maxDepth

/-! ## Making a world ready -/

instance (name : String) (b : Builtin) : Guards s n (installBuiltin engineCall name b) := by
  unfold installBuiltin
  refine Guards.andThen inferInstance fun k hle _ _ => ?_
  split
  · infer_instance
  · refine Guards.andThen inferInstance fun k hle exports _ => ?_
    split <;> infer_instance

instance : Guards s n enableRequire := by
  unfold enableRequire
  infer_instance

/-! ## Turns of the event loop -/

section
variable {w : World} {job : Job} {rest : List Job}

/-- A job that is not a hidden one is taken off the queue. -/
theorem Sealed.drop (hw : Sealed s w) (hjobs : w.jobs = job :: rest) :
    Sealed s { w with jobs := rest } :=
  ⟨hw.based, hw.bounded, hw.watched, ⟨hw.clear.heap,
    fun job' h => hw.clear.jobs job' (hjobs ▸ List.mem_cons_of_mem _ h), hw.clear.channels,
    hw.clear.stored, hw.clear.kept⟩⟩

theorem Seal.jobsIn_drop (hjobs : w.jobs = job :: rest) (hown : s.settles job = false) :
    s.jobsIn { w with jobs := rest } = s.jobsIn w := by
  simp [Seal.jobsIn, hjobs, hown]

/-- A turn in which a job of the guest is run. -/
theorem stays_job (hw : Sealed s w) (hjobs : w.jobs = job :: rest)
    (hown : s.settles job = false) :
    Stays s w (run w (runJob engineCall)).2 ∧ rest <+: (run w (runJob engineCall)).2.jobs := by
  have hjob : Refers.clear s w.heap.size job := hw.clear.jobs job (hjobs ▸ List.mem_cons_self)
  have hguards : Guards s w.heap.size (do performJob engineCall job; pure true) :=
    (guards_performJob hjob hown).andThen inferInstance
  obtain ⟨hin, -⟩ := hguards.ensures { w with jobs := rest } (Nat.le_refl _) (hw.drop hjobs)
  rw [run_runJob_cons hjobs]
  refine ⟨⟨hin.is, hin.size, hin.hidden, hin.surroundings, fun φ hφ => ?_⟩, hin.queue⟩
  exact hin.phase φ (hφ.congr (by rfl) (s.jobsIn_drop hjobs hown))

/-- A turn while no job for a hidden promise is in the queue. -/
theorem stays_turn (hw : Sealed s w) (hown : s.jobsIn w = []) :
    Stays s w (run w (runJob engineCall)).2 := by
  cases hjobs : w.jobs with
  | nil =>
    rw [run_runJob_nil hjobs]
    exact .refl hw
  | cons job rest =>
    have hmem : job ∈ w.jobs := hjobs ▸ List.mem_cons_self
    exact (stays_job hw hjobs (Bool.eq_false_iff.mpr
      (List.filter_eq_nil_iff.mp hown job hmem))).1

/-- **Run.** Turns stay within as long as no job for a hidden promise is in the queue. -/
theorem stays_turns (hw : Sealed s w) {n : Nat}
    (hown : ∀ i < n, Stays s w (worldAt engineCall w i) → s.jobsIn (worldAt engineCall w i) = []) :
    Stays s w (worldAt engineCall w n) := by
  induction n with
  | zero => exact .refl hw
  | succ n ih =>
    have hbefore := ih fun i hi => hown i (Nat.lt_succ_of_lt hi)
    rw [worldAt_succ]
    exact hbefore.trans (stays_turn hbefore.is (hown n (Nat.lt_succ_self n) hbefore))

/-- **Order.** The first job for a hidden promise comes to the front of the queue, one place with
each turn. -/
theorem comes_to_front (hw : Sealed s w) {before after : List Job} {own : Job}
    (hjobs : w.jobs = before ++ own :: after) (hbefore : ∀ job ∈ before, s.settles job = false) :
    (∀ i ≤ before.length, Stays s w (worldAt engineCall w i)) ∧
      ∃ rest, (worldAt engineCall w before.length).jobs = own :: rest := by
  induction before generalizing w after with
  | nil =>
    refine ⟨fun i hi => ?_, after, hjobs⟩
    obtain rfl := Nat.le_zero.mp hi
    exact .refl hw
  | cons job before ih =>
    obtain ⟨hstays, more, hqueue⟩ :=
      stays_job hw hjobs (hbefore job List.mem_cons_self)
    have hnext : (run w (runJob engineCall)).2.jobs = before ++ own :: (after ++ more) := by
      rw [← hqueue]
      simp
    obtain ⟨hall, rest, hfront⟩ := ih hstays.is hnext fun job' h =>
      hbefore job' (List.mem_cons_of_mem _ h)
    refine ⟨fun i hi => ?_, rest, hfront⟩
    cases i with
    | zero => exact .refl hw
    | succ i => exact hstays.trans (hall i (Nat.le_of_succ_le_succ hi))

/-- The one job for a hidden promise comes to the front. -/
theorem own_comes_to_front (hw : Sealed s w) {own : Job} (hown : s.jobsIn w = [own]) :
    ∃ k rest, (worldAt engineCall w k).jobs = own :: rest ∧
      ∀ i ≤ k, Stays s w (worldAt engineCall w i) := by
  obtain ⟨before, after, hjobs, hbefore, -⟩ := List.filter_eq_cons_iff.mp hown
  obtain ⟨hall, rest, hfront⟩ := comes_to_front hw hjobs fun job hjob =>
    Bool.eq_false_iff.mpr (hbefore job hjob)
  exact ⟨before.length, rest, hfront, hall⟩

end

end GuestLint.Guest
