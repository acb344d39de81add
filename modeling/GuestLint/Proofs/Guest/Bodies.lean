import GuestLint.Proofs.Guest.Loading

/-!
# Bodies of modules

The body of a module is guest code that requires further modules. Cut where it requires, the code
is a tree: it ends, or it names a module and goes on with what the require answers, be it the
exports or an exception. Between its requires it may do anything to the world, and it comes to its
end after finitely many requires, whatever they answer.

* `Course`, `Code`: code up to its next require, and code that starts from any world.
* `Performs`: with a `require` for the answers, the code does what a computation does.
* `moduleCode_performs`: what the engine runs as the body of a module is such code.
* `Tame`: code that comes back and leaves the module cache to the require; it is closed under the
  ways in which code is put together.
-/
namespace GuestLint.Guest

/-! ## Code that requires modules -/

/-- Code up to its next require. -/
inductive Course (α : Type) where
  | done (result : Except Stop α) (w : World)
  | require (name : String) (w : World) (next : Except Stop Value → World → Course α)

variable {α β : Type}

namespace Course

def bind (f : α → World → Course β) : Course α → Course β
  | .done (.ok a) w => f a w
  | .done (.error e) w => .done (.error e) w
  | .require name w next => .require name w fun r w => (next r w).bind f

def handle (f : Stop → World → Course α) : Course α → Course α
  | .done (.ok a) w => .done (.ok a) w
  | .done (.error e) w => f e w
  | .require name w next => .require name w fun r w => (next r w).handle f

/-- Runs code to its end; `require` answers its requires. -/
def perform (require : String → Machine Value) : Course α → Except Stop α × World
  | .done r w => (r, w)
  | .require name w next =>
    (next (run w (require name)).1 (run w (require name)).2).perform require

theorem perform_bind (require : String → Machine Value) (f : α → World → Course β)
    (c : Course α) :
    (c.bind f).perform require =
      match c.perform require with
      | (.ok a, w) => (f a w).perform require
      | (.error e, w) => (.error e, w) := by
  induction c with
  | done r w => cases r <;> rfl
  | require name w next ih => exact ih _ _

theorem perform_handle (require : String → Machine Value) (f : Stop → World → Course α)
    (c : Course α) :
    (c.handle f).perform require =
      match c.perform require with
      | (.ok a, w) => (.ok a, w)
      | (.error e, w) => (f e w).perform require := by
  induction c with
  | done r w => cases r <;> rfl
  | require name w next ih => exact ih _ _

end Course

/-- Code from any world on. -/
def Code (α : Type) : Type := World → Course α

instance : Monad Code where
  pure a := fun w => .done (.ok a) w
  bind t f := fun w => (t w).bind f

instance : MonadExceptOf Stop Code where
  throw e := fun w => .done (.error e) w
  tryCatch t f := fun w => (t w).handle f

namespace Code

/-- A computation as code that requires nothing. -/
def plain (x : Machine α) : Code α := fun w => .done (run w x).1 (run w x).2

/-- Requires a module, and throws what the require throws. -/
def require (name : String) : Code Value := fun w => .require name w .done

/-- Runs code at a place. -/
def atPlace (frame : Frame) (t : Code α) : Code α := do
  let frames := (← plain get).frames
  plain (modify fun w => { w with frames := frame :: w.frames })
  let leave : Code Unit := plain (modify fun w => { w with frames := frames })
  let result ← tryCatchThe Stop t fun stop => do
    leave
    throwThe Stop stop
  leave
  pure result

/-- The exception that a require throws, or what it answers. -/
def tryRequire (name : String) : Code (Except Value Value) :=
  tryCatchThe Stop (Except.ok <$> require name) fun
    | .thrown v => pure (.error v)
    | stop => throwThe Stop stop

end Code

/-! ## The code of a module -/

variable (call : Call)

/-- The code of a step. Only steps that require a module are cut. -/
def stepCode (scope : ModuleScope) : Step → Code (Option Value)
  | .require name key => do
    let exports ← Code.require name
    match key with
    | some k => Code.plain (scope.export k exports)
    | none => pure ()
    pure (some exports)
  | .tryRequire name => do
    match ← Code.tryRequire name with
    | .ok _ => pure ()
    | .error e => do
      let text ← Code.plain (shownText call e)
      Code.plain (noteText ("caught " ++ text))
    pure none
  | step => Code.plain (step.run call scope)

def scriptCode (scope : ModuleScope) (file : Option String) :
    (line : Nat) → (value : Value) → Script → Code Value
  | _, value, [] => pure value
  | line, value, step :: rest => do
    let result ← match file with
      | some name => Code.atPlace ⟨name, line, "<anonymous>"⟩ (stepCode call scope step)
      | none => stepCode call scope step
    scriptCode scope file (line + 1) (result.getD value) rest

/-- The code of a module, registered or from a source. -/
def moduleCode (q : String × Ref) : Code Unit := do
  let registry := (← Code.plain get).registry
  let exports ← Code.plain (getProperty (.object q.2) "exports")
  match registry.natives.lookup q.1 with
  | some (.builtin b) => Code.plain (Builtin.load b q.2)
  | some (.script body) => do
    let _ ← scriptCode call ⟨q.2, exports, none⟩ none 1 .undefined body
  | none =>
    match registry.loader q.1 with
    | .error _ => Code.plain (raiseMissing q.1)
    | .ok content => do
      let text := Utf8.decodeLossy content
      Code.plain (modifyRegistry (·.recordSource q.1 text))
      match (← Code.plain get).surroundings.compile text with
      | none =>
        Code.plain (atPlace ⟨q.1, 1, "<anonymous>"⟩
          (raise "SyntaxError" "unexpected token in module"))
      | some body => do
        let _ ← scriptCode call ⟨q.2, exports, some (q.1, Path.dirname q.1)⟩ (some q.1) 1
          .undefined body

/-! ### It does what the engine does -/

/-- With `require` for the answers, the code does what the computation does. -/
def Performs (require : String → Machine Value) (t : Code α) (x : Machine α) : Prop :=
  ∀ w, (t w).perform require = run w x

namespace Performs

variable {require : String → Machine Value}

theorem pure (a : α) : Performs require (Pure.pure a) (Pure.pure a) := fun _ => rfl

theorem plain (x : Machine α) : Performs require (Code.plain x) x := fun _ => rfl

theorem throw (e : Stop) : Performs require (MonadExceptOf.throw e : Code α)
    (MonadExceptOf.throw e : Machine α) := fun _ => rfl

theorem requires (name : String) : Performs require (Code.require name) (require name) :=
  fun _ => rfl

theorem bind {t : Code α} {x : Machine α} {f : α → Code β} {g : α → Machine β}
    (ht : Performs require t x) (hf : ∀ a, Performs require (f a) (g a)) :
    Performs require (t >>= f) (x >>= g) := by
  intro w
  refine (Course.perform_bind _ f (t w)).trans ?_
  rw [ht w, run_bind]
  cases run w x with
  | mk r w' =>
    cases r with
    | ok a => exact hf a w'
    | error e => rfl

theorem tryCatch {t : Code α} {x : Machine α} {f : Stop → Code α} {g : Stop → Machine α}
    (ht : Performs require t x) (hf : ∀ e, Performs require (f e) (g e)) :
    Performs require (tryCatchThe Stop t f) (tryCatchThe Stop x g) := by
  intro w
  refine (Course.perform_handle _ f (t w)).trans ?_
  rw [ht w, run_tryCatch]
  cases run w x with
  | mk r w' =>
    cases r with
    | ok a => rfl
    | error e => exact hf e w'

theorem atPlace (frame : Frame) {t : Code α} {x : Machine α} (h : Performs require t x) :
    Performs require (Code.atPlace frame t) (Guest.atPlace frame x) := by
  refine (plain _).bind fun frames => (plain _).bind fun _ => ?_
  refine (h.tryCatch fun e => (plain _).bind fun _ => throw e).bind fun result => ?_
  exact (plain _).bind fun _ => pure result

theorem tryRequire (name : String) :
    Performs require (Code.tryRequire name) (attempt (require name)) := by
  have hok : Performs require (Except.ok <$> Code.require name : Code (Except Value Value))
      (Except.ok <$> require name) := by
    show Performs require (Code.require name >>= fun v => Pure.pure (Except.ok v)) _
    rw [← bind_pure_comp]
    exact (requires name).bind fun v => pure (Except.ok v)
  refine hok.tryCatch fun stop => ?_
  cases stop with
  | thrown v => exact pure (Except.error v)
  | endless => exact throw .endless
  | fault message => exact throw (.fault message)

end Performs

theorem stepCode_performs (scope : ModuleScope) (step : Step) :
    Performs (callRequire call) (stepCode call scope step) (step.run call scope) := by
  cases step with
  | require name key =>
    refine (Performs.requires name).bind fun exports => ?_
    cases key with
    | none => exact (Performs.pure ()).bind fun _ => .pure _
    | some k => exact (Performs.plain _).bind fun _ => .pure _
  | tryRequire name =>
    refine (Performs.tryRequire name).bind fun outcome => ?_
    cases outcome with
    | ok v => exact (Performs.pure ()).bind fun _ => .pure none
    | error e =>
      exact (Performs.plain _).bind fun _ => (Performs.plain _).bind fun _ => .pure none
  | _ => exact .plain _

theorem scriptCode_performs (scope : ModuleScope) (file : Option String) (line : Nat)
    (value : Value) (script : Script) :
    Performs (callRequire call) (scriptCode call scope file line value script)
      (runSteps call scope file line value script) := by
  induction script generalizing line value with
  | nil => exact .pure value
  | cons step rest ih =>
    have hstep := stepCode_performs call scope step
    cases file with
    | none => exact hstep.bind fun result => ih _ _
    | some name => exact (hstep.atPlace ⟨name, line, "<anonymous>"⟩).bind fun result => ih _ _

/-- What the engine runs as the body of a module is the code of the module. -/
theorem moduleCode_performs (q : String × Ref) :
    Performs (callRequire call) (moduleCode call q) (runModule call q.1 q.2) := by
  refine (Performs.plain _).bind fun w => (Performs.plain _).bind fun exports => ?_
  cases w.registry.natives.lookup q.1 with
  | some native =>
    cases native with
    | builtin b => exact .plain _
    | script body => exact Performs.bind (scriptCode_performs call _ _ _ _ body) fun _ => .pure ()
  | none =>
    cases w.registry.loader q.1 with
    | error e => exact .plain _
    | ok content =>
      refine (Performs.plain _).bind fun _ => ?_
      refine (Performs.plain _).bind fun w => ?_
      cases w.surroundings.compile (Utf8.decodeLossy content) with
      | none => exact .plain _
      | some body => exact Performs.bind (scriptCode_performs call _ _ _ _ body) fun _ => .pure ()

/-! ## Code that comes back -/

/-- A value or an exception, as opposed to the end of the guest. -/
def Ordinary (r : Except Stop α) : Prop := ∀ stop, r = .error stop → ∃ v, stop = .thrown v

theorem Ordinary.ok (a : α) : Ordinary (.ok a) := fun _ h => nomatch h

theorem Ordinary.thrown (v : Value) : Ordinary (.error (.thrown v) : Except Stop α) :=
  fun _ h => ⟨v, (Except.error.inj h).symm⟩

/-- The module cache is as it was. -/
structure SparesCache (w w' : World) : Prop where
  size : w.heap.size ≤ w'.heap.size
  cache : w'.heap.at_ Place.moduleCache = w.heap.at_ Place.moduleCache

namespace SparesCache

theorem refl (w : World) : SparesCache w w := ⟨Nat.le_refl _, rfl⟩

theorem trans {w w' w'' : World} (h : SparesCache w w') (h' : SparesCache w' w'') :
    SparesCache w w'' := ⟨Nat.le_trans h.size h'.size, h'.cache.trans h.cache⟩

theorem ready {w w' : World} (h : SparesCache w w') (hw : CacheReady w) : CacheReady w' :=
  ⟨Nat.lt_of_lt_of_le hw.lt_size h.size, h.cache ▸ hw.plain⟩

end SparesCache

/-- The code comes back from each of its stretches, and leaves the module cache to the require. -/
inductive Course.Tame : World → Course α → Prop
  | done {start w : World} {r : Except Stop α} (hr : Ordinary r) (hw : SparesCache start w) :
      Tame start (.done r w)
  | require {start w : World} {name : String} {next : Except Stop Value → World → Course α}
      (hw : SparesCache start w)
      (hnext : ∀ r w', Ordinary r → CacheReady w' → Tame w' (next r w')) :
      Tame start (.require name w next)

def Code.Tame (t : Code α) : Prop := ∀ w, CacheReady w → (t w).Tame w

namespace Course.Tame

variable {start : World}

theorem weaken {w : World} {c : Course α} (hw : SparesCache start w) (h : Tame w c) :
    Tame start c := by
  cases h with
  | done hr hw' => exact .done hr (hw.trans hw')
  | require hw' hnext => exact .require (hw.trans hw') hnext

theorem bind {c : Course α} {f : α → Code β} (hready : CacheReady start) (h : c.Tame start)
    (hf : ∀ a, (f a).Tame) : (c.bind f).Tame start := by
  induction h with
  | done hr hw =>
    rename_i w r
    cases r with
    | ok a => exact (hf a w (hw.ready hready)).weaken hw
    | error e =>
      obtain ⟨v, rfl⟩ := hr e rfl
      exact .done (.thrown v) hw
  | require hw _ ih => exact .require hw fun r w' hr hw' => ih r w' hr hw' hw'

theorem handle {c : Course α} {f : Stop → Code α} (hready : CacheReady start) (h : c.Tame start)
    (hf : ∀ v, (f (.thrown v)).Tame) : (c.handle f).Tame start := by
  induction h with
  | done hr hw =>
    rename_i w r
    cases r with
    | ok a => exact .done (.ok a) hw
    | error e =>
      obtain ⟨v, rfl⟩ := hr e rfl
      exact (hf v w (hw.ready hready)).weaken hw
  | require hw _ ih => exact .require hw fun r w' hr hw' => ih r w' hr hw' hw'

end Course.Tame

namespace Code.Tame

theorem pure (a : α) : (Pure.pure a : Code α).Tame := fun w _ => .done (.ok a) (.refl w)

theorem throwValue (v : Value) : (throwThe Stop (.thrown v) : Code α).Tame :=
  fun w _ => .done (.thrown v) (.refl w)

theorem require (name : String) : (Code.require name).Tame := fun w _ =>
  .require (.refl w) fun _ w' hr _ => .done hr (.refl w')

theorem bind {t : Code α} {f : α → Code β} (ht : t.Tame) (hf : ∀ a, (f a).Tame) :
    (t >>= f).Tame := fun w hw => (ht w hw).bind hw hf

theorem tryCatch {t : Code α} {f : Stop → Code α} (ht : t.Tame)
    (hf : ∀ v, (f (.thrown v)).Tame) : (tryCatchThe Stop t f).Tame :=
  fun w hw => (ht w hw).handle hw hf

theorem plain {x : Machine α}
    (h : ∀ w, CacheReady w → Ordinary (run w x).1 ∧ SparesCache w (run w x).2) :
    (Code.plain x).Tame := fun w hw => .done (h w hw).1 (h w hw).2

theorem tryRequire (name : String) : (Code.tryRequire name).Tame :=
  ((require name).bind fun v => pure (Except.ok v)).tryCatch fun v => pure (Except.error v)

/-- To replace the exports of a module leaves the cache alone. -/
theorem assign {r : Ref} (hr : r ≠ Place.moduleCache) (name : String) (v : Value) :
    (Code.plain (assign r name v)).Tame :=
  plain fun _ _ => ⟨.ok (), Nat.le_of_eq (Heap.size_modify ..).symm,
    Heap.at_modify_ne _ hr.symm _⟩

end Code.Tame

/-- A new object is not the cache. -/
theorem sparesCache_push {w : World} (hw : CacheReady w) (o : Object) :
    SparesCache w { w with heap := w.heap.push o } :=
  ⟨by simp, Heap.at_push_lt _ hw.lt_size _⟩

theorem tame_raise (name message : String) : (Code.plain (raise name message : Machine α)).Tame :=
  Code.Tame.plain fun _ hw => ⟨.thrown _, sparesCache_push hw _⟩

/-- To say that there is no module of a name is to throw. -/
theorem raiseMissing_run {w : World} (hw : CacheReady w) (id : String) :
    ∃ e w', run w (raiseMissing id) = (.error (.thrown e), w') ∧ SparesCache w w' := by
  have hne : Place.moduleCache ≠ w.heap.size := Nat.ne_of_lt hw.lt_size
  obtain ⟨o, ho⟩ : ∃ o, errorAt w.frames "Error" ("Cannot find module '" ++ id ++ "'") = o :=
    ⟨_, rfl⟩
  let assigned (h : Heap) : Heap :=
    (h.modify w.heap.size (·.put "code" (.text "MODULE_NOT_FOUND"))).modify w.heap.size
      (·.put "moduleName" (.text id))
  refine ⟨.object w.heap.size, { w with heap := assigned (w.heap.push o) }, ?_, ?_⟩
  · rw [raiseMissing, run_bind_ok (run_makeError ..), ho]
    rfl
  · refine (sparesCache_push hw o).trans ⟨?_, ?_⟩
    · simp [assigned]
    · exact (Heap.at_modify_ne _ hne _).trans (Heap.at_modify_ne _ hne _)

end GuestLint.Guest
