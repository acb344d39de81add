import GuestLint.Guest.Promise
import GuestLint.Proofs.Guest.Machine

/-!
# The job queue

Jobs are run from the front of the queue, and what a job adds goes behind what is there. So the
jobs are run in the order in which they came.

* `Composes.performJob`: what holds of the functions that a job calls holds of the job, for any
  property that is kept when computations are put together.
* `Appends`: such a property; the computation only adds to the back of the queue.
* `returns_runJob`: another one; a job that throws has been run like any other.
* `worldAt`: the world after a number of jobs, run one after another.
* `ranJobs_queue`: what has been run and what is left is what was there and what was added.
-/
namespace GuestLint.Guest

variable {α β : Type}

/-! ## What jobs are made of -/

/-- Two properties of computations that hold of what promises and jobs are made of, and are kept
when such parts are put together: `C` for parts that come back, `T` for parts that may throw. -/
structure Composes (C T : ∀ {α : Type}, Machine α → Prop) : Prop where
  pure : ∀ {α : Type} (a : α), C (Pure.pure a : Machine α)
  bind : ∀ {α β : Type} {x : Machine α} {f : α → Machine β}, C x → (∀ a, C (f a)) → C (x >>= f)
  throwing : ∀ {α : Type} {x : Machine α}, C x → T x
  attempt : ∀ {α : Type} {x : Machine α}, T x → C (attempt x)
  raise : ∀ {α : Type} (name message : String), T (raise name message : Machine α)
  heap : C heap
  allocate : ∀ o, C (allocate o)
  modifyObject : ∀ r f, C (modifyObject r f)
  enqueue : ∀ job, C (enqueue job)

namespace Composes

variable {C T : ∀ {α : Type}, Machine α → Prop} (h : Composes C T)
include h

theorem forIn {α : Type} {xs : List α} {f : α → PUnit → Machine (ForInStep PUnit)}
    (hf : ∀ a u, C (f a u)) : C (forIn xs PUnit.unit f) := by
  induction xs with
  | nil => exact h.pure _
  | cons x xs ih =>
    rw [List.forIn_cons]
    refine h.bind (hf x _) fun s => ?_
    cases s with
    | done u => exact h.pure u
    | yield u => exact ih

theorem promiseState? (r : Ref) : C (promiseState? r) := by
  refine h.bind h.heap fun _ => ?_
  split <;> exact h.pure _

theorem getProperty (v : Value) (name : String) : T (getProperty v name) := by
  cases v with
  | undefined => exact h.raise _ _
  | null => exact h.raise _ _
  | object r => exact h.throwing (h.bind h.heap fun _ => h.pure _)
  | _ => exact h.throwing (h.pure _)

theorem settle (r : Ref) (value : Value) (fulfils : Bool) : C (settle r value fulfils) := by
  refine h.bind (h.promiseState? r) fun state => ?_
  split
  · refine h.bind (h.modifyObject _ _) fun _ => ?_
    refine h.bind (h.forIn fun reaction _ => ?_) fun _ => h.pure _
    exact h.bind (h.enqueue _) fun _ => h.pure _
  · exact h.pure _

theorem resolve (r : Ref) (value : Value) : C (resolve r value) := by
  unfold Guest.resolve
  cases value with
  | object ref =>
    refine h.bind (h.attempt (h.getProperty _ _)) fun method => ?_
    cases method with
    | error e => exact h.settle _ _ _
    | ok method =>
      refine h.bind h.heap fun _ => ?_
      split
      · refine h.bind (h.promiseState? r) fun state => ?_
        split
        · exact h.bind (h.modifyObject _ _) fun _ => h.enqueue _
        · exact h.pure _
      · exact h.settle _ _ _
  | _ => exact h.settle _ _ _

theorem settleInRound (r : Ref) (round : Nat) (fulfils : Bool) (value : Value) :
    C (settleInRound r round fulfils value) := by
  refine h.bind (h.promiseState? r) fun state => ?_
  split
  · split
    · cases fulfils with
      | true => exact h.resolve _ _
      | false => exact h.settle _ _ _
    · exact h.pure _
  · exact h.pure _

/-- Every job has the property when the functions that it calls do. They may throw: a job catches
it. -/
theorem performJob {call : Call} (hcall : ∀ f this args, T (call f this args)) (job : Job) :
    C (performJob call job) := by
  cases job with
  | react handler argument fulfils derived =>
    refine h.bind h.heap fun _ => ?_
    split
    · refine h.bind (h.attempt (hcall _ _ _)) fun result => ?_
      cases result with
      | ok value => exact h.resolve _ _
      | error e => exact h.settle _ _ _
    · exact h.settle _ _ _
  | adopt promise round thenable method =>
    refine h.bind (h.allocate _) fun fulfil => ?_
    refine h.bind (h.allocate _) fun refuse => ?_
    refine h.bind (h.attempt (hcall _ _ _)) fun result => ?_
    cases result with
    | ok value => exact h.pure _
    | error e => exact h.settleInRound _ _ _ _
  | invoke f args => exact h.bind (h.attempt (hcall _ _ _)) fun _ => h.pure _
  | settleAfter turns promise value fulfils =>
    cases turns with
    | zero =>
      cases fulfils with
      | true => exact h.resolve _ _
      | false => exact h.settle _ _ _
    | succ turns => exact h.enqueue _
  | spin => exact h.enqueue _

end Composes

/-! ## Adding to the queue -/

/-- However the computation ends, the queue is what it was, with new jobs behind it. -/
def Appends (x : Machine α) : Prop := ∀ w, w.jobs <+: (run w x).2.jobs

theorem Appends.bind {x : Machine α} {f : α → Machine β} (hx : Appends x)
    (hf : ∀ a, Appends (f a)) : Appends (x >>= f) := by
  intro w
  have h := hx w
  rw [run_bind]
  cases hrun : run w x with
  | mk r w' =>
    rw [hrun] at h
    cases r with
    | ok a => exact h.trans (hf a w')
    | error e => exact h

theorem Appends.attempt {x : Machine α} (hx : Appends x) : Appends (attempt x) := by
  intro w
  have h := hx w
  show _ <+: (run w (tryCatchThe Stop (Except.ok (ε := Value) <$> x) _)).2.jobs
  rw [run_tryCatch, ← bind_pure_comp, run_bind]
  cases hrun : run w x with
  | mk r w' =>
    rw [hrun] at h
    cases r with
    | ok a => exact h
    | error e => cases e <;> exact h

theorem composes_appends : Composes Appends Appends where
  pure _ _ := List.prefix_refl _
  bind := .bind
  throwing := id
  attempt := .attempt
  raise _ _ _ := List.prefix_refl _
  heap _ := List.prefix_refl _
  allocate _ _ := List.prefix_refl _
  modifyObject _ _ _ := List.prefix_refl _
  enqueue _ _ := List.prefix_append _ _

/-! ## Coming back -/

/-- The computation comes back with a value, in every world. -/
def Returns (x : Machine α) : Prop := ∀ w, ∃ a w', run w x = (.ok a, w')

/-- The computation comes back, with a value or with what it threw. -/
def ComesBack (x : Machine α) : Prop :=
  ∀ w, (∃ a w', run w x = (.ok a, w')) ∨ ∃ v w', run w x = (.error (.thrown v), w')

theorem Returns.bind {x : Machine α} {f : α → Machine β} (hx : Returns x)
    (hf : ∀ a, Returns (f a)) : Returns (x >>= f) := by
  intro w
  obtain ⟨a, w', hrun⟩ := hx w
  rw [run_bind_ok hrun]
  exact hf a w'

/-- What a computation throws is a value of the one that attempts it. -/
theorem ComesBack.attempt {x : Machine α} (hx : ComesBack x) : Returns (attempt x) := by
  intro w
  show ∃ a w', run w (tryCatchThe Stop (Except.ok (ε := Value) <$> x) _) = (.ok a, w')
  rw [run_tryCatch, ← bind_pure_comp, run_bind]
  obtain ⟨a, w', hrun⟩ | ⟨v, w', hrun⟩ := hx w
  · rw [hrun]
    exact ⟨.ok a, w', rfl⟩
  · rw [hrun]
    exact ⟨.error v, w', rfl⟩

theorem comesBack_raise (name message : String) : ComesBack (raise name message : Machine α) :=
  fun _ => .inr ⟨_, _, rfl⟩

theorem composes_returns : Composes Returns ComesBack where
  pure a w := ⟨a, w, rfl⟩
  bind := .bind
  throwing hx w := .inl (hx w)
  attempt := ComesBack.attempt
  raise := comesBack_raise
  heap w := ⟨w.heap, w, rfl⟩
  allocate _ _ := ⟨_, _, rfl⟩
  modifyObject _ _ _ := ⟨(), _, rfl⟩
  enqueue _ _ := ⟨(), _, rfl⟩

/-! ## Running jobs one after another -/

variable {call : Call}

/-- A job of an empty queue: there is none. -/
theorem run_runJob_nil {w : World} (h : w.jobs = []) :
    run w (runJob call) = (.ok false, w) := by
  unfold runJob
  rw [run_bind_ok (run_get w), h]
  rfl

/-- The first job is taken off the queue and performed. -/
theorem run_runJob_cons {w : World} {job : Job} {rest : List Job} (h : w.jobs = job :: rest) :
    run w (runJob call) = run { w with jobs := rest } (do performJob call job; pure true) := by
  unfold runJob
  rw [run_bind_ok (run_get w), h]
  exact run_bind_ok (run_modify w _) _

/-- **A job that throws has been run.** When the functions that jobs call come back, every job comes
back, and running it is told apart from an empty queue. -/
theorem returns_runJob (call : Call) (hcall : ∀ f this args, ComesBack (call f this args)) :
    Returns (runJob call) := by
  intro w
  cases hjobs : w.jobs with
  | nil => exact ⟨false, w, run_runJob_nil hjobs⟩
  | cons job rest =>
    obtain ⟨u, w', hrun⟩ := composes_returns.performJob hcall job { w with jobs := rest }
    rw [run_runJob_cons hjobs, run_bind_ok hrun]
    exact ⟨true, w', rfl⟩

/-- The world after a number of jobs; an empty queue leaves it as it is. -/
def worldAt (call : Call) (w : World) : Nat → World
  | 0 => w
  | n + 1 => worldAt call (run w (runJob call)).2 n

theorem worldAt_succ (call : Call) (w : World) (n : Nat) :
    worldAt call w (n + 1) = (run (worldAt call w n) (runJob call)).2 := by
  induction n generalizing w with
  | zero => rfl
  | succ n ih => exact ih _

theorem worldAt_add (call : Call) (w : World) (n k : Nat) :
    worldAt call w (n + k) = worldAt call (worldAt call w n) k := by
  induction k with
  | zero => rfl
  | succ k ih => rw [← Nat.add_assoc, worldAt_succ, worldAt_succ, ih]

theorem worldAt_of_idle {w : World} {n : Nat} (h : (worldAt call w n).jobs = []) (k : Nat) :
    worldAt call w (n + k) = worldAt call w n := by
  induction k with
  | zero => rfl
  | succ k ih =>
    rw [← Nat.add_assoc, worldAt_succ, ih, run_runJob_nil h]

/-- The jobs that have been run, in order. -/
def ranJobs (call : Call) (w : World) : Nat → List Job
  | 0 => []
  | n + 1 => ranJobs call w n ++ (worldAt call w n).jobs.head?.toList

/-- **Queue order.** What has been run, and what is left behind it, is what was in the queue and
what was added to it. -/
theorem ranJobs_queue (hcall : ∀ f this args, Appends (call f this args)) (w : World) (n : Nat) :
    w.jobs <+: ranJobs call w n ++ (worldAt call w n).jobs := by
  induction n with
  | zero => exact List.prefix_refl _
  | succ n ih =>
    refine ih.trans ?_
    rw [ranJobs, worldAt_succ, List.append_assoc]
    refine (List.prefix_append_right_inj _).mpr ?_
    cases hjobs : (worldAt call w n).jobs with
    | nil => exact List.nil_prefix
    | cons job rest =>
      rw [run_runJob_cons hjobs]
      have happ : Appends (do performJob call job; pure true) :=
        composes_appends.bind (composes_appends.performJob hcall job) fun _ =>
          composes_appends.pure _
      exact (List.prefix_append_right_inj [job]).mpr (happ { worldAt call w n with jobs := rest })

end GuestLint.Guest
