import GuestLint.Lint.Run
import GuestLint.Proofs.Guest.Jobs

/-!
# What comes of waiting for a promise

A run waits for the promise that its driver script completes with. The course of the wait is read
off the worlds that the jobs of the queue lead to: at each of them `verdictAt` says whether the wait
ends there, and how. A settled promise comes before the watchdog, and the watchdog before an empty
queue.

* `Waiting.recorded`: a wait with a record of what it does, and `recorded_wait`: it is the same
  wait.
* `recordedWait_ends`, `recordedWait_still`: a wait ends with the first verdict, and what it has
  done up to there.
* `verdict_settled`, `verdictAt_of_error`: which verdicts there are when a promise settles after
  some jobs, and when the watchdog fails at some time.
* `finalValue_of_wait`: what the run makes of the end of its wait.
* `wait_course`: all of it, for every guest and every watchdog.
-/
namespace GuestLint.Lint

open Guest

variable {V : Type}

/-! ## Recorded waits -/

/-- What a wait does: it looks at the result, asks the watchdog, and works on the queue. -/
inductive Step (V : Type) where
  | observed (seen : Observation V)
  | answered (answer : Except Halt Unit)
  | worked (ran : Bool)
  deriving Repr

namespace Waiting

variable {m : Type → Type} [Monad m]

/-- An action whose result is put at the end of a record. -/
def noting {α : Type} (step : α → Step V) (action : m α) : StateT (List (Step V)) m α := do
  let a ← action
  modify (· ++ [step a])
  pure a

/-- The wait, with a record of what it does. -/
def recorded (w : Waiting m V) : Waiting (StateT (List (Step V)) m) V where
  observe := noting .observed w.observe
  check := noting .answered w.check
  runJob := noting .worked w.runJob

theorem noting_bind_run [LawfulMonad m] {α β : Type} (step : α → Step V) (action : m α)
    (f : α → StateT (List (Step V)) m β) (steps : List (Step V)) :
    (noting step action >>= f).run steps = action >>= fun a => (f a).run (steps ++ [step a]) := by
  simp [noting, StateT.run_bind]

/-- A record changes nothing of the wait. -/
theorem recorded_wait [LawfulMonad m] (w : Waiting m V) (looks : Nat) (steps : List (Step V)) :
    (w.recorded.wait looks).run' steps = w.wait looks := by
  induction looks generalizing steps with
  | zero => simp [wait]
  | succ looks ih =>
    unfold wait
    simp only [StateT.run'_eq, recorded, noting_bind_run, map_bind]
    congr 1; funext seen
    cases seen with
    | resolved value => simp
    | rejected reason => simp
    | pending =>
      simp only [noting_bind_run, map_bind]
      congr 1; funext answer
      cases answer with
      | error halt => simp
      | ok u =>
        simp only [noting_bind_run, map_bind]
        congr 1; funext ran
        cases ran with
        | true => exact ih _
        | false => simp

end Waiting

/-! ## Verdicts -/

/-- What can be seen of a promise in a world. -/
def seenIn (w : World) (promise : Ref) : Observation Value :=
  match (w.heap.at_ promise).kind with
  | .promise (.fulfilled value) => .resolved value
  | .promise (.rejected reason) => .rejected reason
  | _ => .pending

/-- The outcome that a settled result stands for. -/
def settled? : Observation Value → Option (WaitOutcome Value)
  | .pending => none
  | .resolved value => some (.resolved value)
  | .rejected reason => some (.rejected reason)

/-- How a wait ends at a look, if it does. -/
def verdict (seen : Observation Value) (answer : Except Halt Unit) (queue : List Job) :
    Option (WaitOutcome Value) :=
  match settled? seen, answer, queue with
  | some o, _, _ => some o
  | none, .error halt, _ => some (.halted halt)
  | none, .ok (), [] => some .stalled
  | none, .ok (), _ :: _ => none

/-- What a wait does in a round that ends nothing. -/
def round : List (Step Value) := [.observed .pending, .answered (.ok ()), .worked true]

def rounds (n : Nat) : List (Step Value) := (List.replicate n round).flatten

/-- What a wait does in its last round. -/
def lastRound : WaitOutcome Value → List (Step Value)
  | .resolved value => [.observed (.resolved value)]
  | .rejected reason => [.observed (.rejected reason)]
  | .halted halt => [.observed .pending, .answered (.error halt)]
  | .stalled => [.observed .pending, .answered (.ok ()), .worked false]

section
variable (call : Call) (answers : Nat → Except Halt Unit) (promise : Ref)

/-- The verdict after a number of jobs. -/
def verdictAt (w : World) (n : Nat) : Option (WaitOutcome Value) :=
  verdict (seenIn (worldAt call w n) promise) (answers n) (worldAt call w n).jobs

/-- A wait for a promise with its record. -/
def recordedWait (looks : Nat) : Machine (Option (WaitOutcome Value) × List (Step Value)) :=
  (((promiseWaiting call answers promise).recorded.wait looks).run []).run' 0

theorem run_observePromise (w : World) :
    run w (observePromise promise) = (.ok (seenIn w promise), w) := by
  unfold observePromise promiseState? seenIn
  rw [bind_assoc, run_bind_ok (run_heap w)]
  cases (w.heap.at_ promise).kind with
  | promise state => cases state <;> rfl
  | _ => rfl

end

/-! ## One round -/

section
variable {call : Call} {answers : Nat → Except Halt Unit} {promise : Ref}

theorem run_noting {α β : Type} {w w' : World} {k k' : Nat} {action : StateT Nat Machine α} {a : α}
    (h : run w (action.run k) = (.ok (a, k'), w')) (step : α → Step Value)
    (f : α → StateT (List (Step Value)) (StateT Nat Machine) β) (steps : List (Step Value)) :
    run w (((Waiting.noting step action >>= f).run steps).run k) =
      run w' (((f a).run (steps ++ [step a])).run k') := by
  rw [Waiting.noting_bind_run, StateT.run_bind, run_bind_ok h]

theorem run_observe (w : World) (k : Nat) :
    run w ((promiseWaiting call answers promise).observe.run k) =
      (.ok (seenIn w promise, k), w) :=
  run_bind_ok (run_observePromise promise w) _

theorem run_check (w : World) (k : Nat) :
    run w ((promiseWaiting call answers promise).check.run k) = (.ok (answers k, k + 1), w) := rfl

theorem run_work {w : World} {ran : Bool} (h : (run w (runJob call)).1 = .ok ran) (k : Nat) :
    run w ((promiseWaiting call answers promise).runJob.run k) =
      (.ok (ran, k), (run w (runJob call)).2) := by
  have hrun : run w (runJob call) = (.ok ran, (run w (runJob call)).2) := Prod.ext h rfl
  exact run_bind_ok hrun _

theorem runJob_ran {w : World} {ran : Bool} (h : (run w (runJob call)).1 = .ok ran) :
    ran = !w.jobs.isEmpty := by
  cases hjobs : w.jobs with
  | nil =>
    rw [run_runJob_nil hjobs] at h
    cases h
    rfl
  | cons job rest =>
    rw [run_runJob_cons hjobs, run_bind] at h
    cases hrun : run { w with jobs := rest } (performJob call job) with
    | mk r w' =>
      rw [hrun] at h
      cases r <;> cases h
      rfl

/-- A wait that finds a verdict ends with it. -/
theorem recorded_ends (call : Call) {w : World} {k : Nat} {o : WaitOutcome Value}
    (hend : verdict (seenIn w promise) (answers k) w.jobs = some o) (looks : Nat)
    (steps : List (Step Value)) :
    ∃ k', run w ((((promiseWaiting call answers promise).recorded.wait (looks + 1)).run
      steps).run k) = (.ok ((some o, steps ++ lastRound o), k'), w) := by
  unfold Waiting.wait
  simp only [Waiting.recorded]
  rw [run_noting (run_observe w k)]
  cases hseen : seenIn w promise with
  | resolved value =>
    rw [hseen] at hend
    cases hend
    exact ⟨k, rfl⟩
  | rejected reason =>
    rw [hseen] at hend
    cases hend
    exact ⟨k, rfl⟩
  | pending =>
    dsimp only
    rw [run_noting (run_check w k)]
    rw [hseen] at hend
    cases hanswer : answers k with
    | error halt =>
      rw [hanswer] at hend
      cases hend
      exact ⟨k + 1, by simp [lastRound]⟩
    | ok u =>
      rw [hanswer] at hend
      cases hjobs : w.jobs with
      | cons job rest =>
        rw [hjobs] at hend
        cases hend
      | nil =>
        rw [hjobs] at hend
        cases hend
        have hidle : (run w (runJob call)).1 = .ok false := by rw [run_runJob_nil hjobs]
        dsimp only
        rw [run_noting (run_work hidle (k + 1)), run_runJob_nil hjobs]
        exact ⟨k + 1, by simp [lastRound]⟩

/-- A wait that finds no verdict runs one job and goes on. -/
theorem recorded_goes_on {w : World} {k : Nat}
    (hend : verdict (seenIn w promise) (answers k) w.jobs = none)
    (hjob : ∃ ran, (run w (runJob call)).1 = .ok ran) (looks : Nat) (steps : List (Step Value)) :
    run w ((((promiseWaiting call answers promise).recorded.wait (looks + 1)).run
        steps).run k) =
      run (run w (runJob call)).2 ((((promiseWaiting call answers promise).recorded.wait looks).run
        (steps ++ round)).run (k + 1)) := by
  obtain ⟨ran, hjob⟩ := hjob
  have hran := runJob_ran hjob
  rw [Waiting.wait]
  simp only [Waiting.recorded]
  rw [run_noting (run_observe w k)]
  cases hseen : seenIn w promise with
  | resolved value =>
    rw [hseen] at hend
    cases hend
  | rejected reason =>
    rw [hseen] at hend
    cases hend
  | pending =>
    dsimp only
    rw [run_noting (run_check w k)]
    rw [hseen] at hend
    cases hanswer : answers k with
    | error halt =>
      rw [hanswer] at hend
      cases hend
    | ok u =>
      rw [hanswer] at hend
      cases hjobs : w.jobs with
      | nil =>
        rw [hjobs] at hend
        cases hend
      | cons job rest =>
        rw [hjobs] at hran
        dsimp only
        rw [run_noting (run_work hjob (k + 1)), hran]
        simp [round]

/-! ## The course of a wait -/

theorem verdictAt_succ (w : World) (k n : Nat) :
    verdictAt call (fun i => answers (k + i)) promise w (n + 1) =
      verdictAt call (fun i => answers (k + 1 + i)) promise (run w (runJob call)).2 n := by
  have hk : k + (n + 1) = k + 1 + n := by omega
  simp only [verdictAt, hk]
  rfl

/-- A wait runs one job after another up to the first verdict, and ends with it. -/
theorem recorded_first {w : World} {k n : Nat} {o : WaitOutcome Value}
    (hjobs : ∀ i < n, ∃ ran, (run (worldAt call w i) (runJob call)).1 = .ok ran)
    (hbefore : ∀ i < n, verdictAt call (fun i => answers (k + i)) promise w i = none)
    (hend : verdictAt call (fun i => answers (k + i)) promise w n = some o) {looks : Nat}
    (hlooks : n < looks) (steps : List (Step Value)) :
    ∃ k', run w ((((promiseWaiting call answers promise).recorded.wait looks).run steps).run k) =
      (.ok ((some o, steps ++ rounds n ++ lastRound o), k'), worldAt call w n) := by
  induction n generalizing w k steps looks with
  | zero =>
    obtain ⟨looks, rfl⟩ := Nat.exists_eq_succ_of_ne_zero (Nat.ne_of_gt hlooks)
    have hnow : verdict (seenIn w promise) (answers k) w.jobs = some o := hend
    obtain ⟨k', hrun⟩ := recorded_ends call hnow looks steps
    exact ⟨k', by simpa [rounds, worldAt] using hrun⟩
  | succ n ih =>
    obtain ⟨looks, rfl⟩ := Nat.exists_eq_succ_of_ne_zero (Nat.ne_of_gt (Nat.zero_lt_of_lt hlooks))
    have hnow : verdict (seenIn w promise) (answers k) w.jobs = none :=
      hbefore 0 (Nat.zero_lt_succ n)
    have hjob : ∃ ran, (run w (runJob call)).1 = .ok ran := hjobs 0 (Nat.zero_lt_succ n)
    rw [Nat.succ_eq_add_one, recorded_goes_on hnow hjob]
    obtain ⟨k', hrun⟩ := ih (w := (run w (runJob call)).2) (k := k + 1)
      (fun i hi => hjobs (i + 1) (Nat.succ_lt_succ hi))
      (fun i hi => (verdictAt_succ w k i).symm.trans (hbefore (i + 1) (Nat.succ_lt_succ hi)))
      ((verdictAt_succ w k n).symm.trans hend) (Nat.lt_of_succ_lt_succ hlooks) (steps ++ round)
    refine ⟨k', hrun.trans ?_⟩
    simp [rounds, List.replicate_succ, worldAt]

/-- A wait without a verdict is still waiting after as many jobs as it had looks. -/
theorem recorded_still {w : World} {k looks : Nat}
    (hjobs : ∀ i < looks, ∃ ran, (run (worldAt call w i) (runJob call)).1 = .ok ran)
    (hbefore : ∀ i < looks, verdictAt call (fun i => answers (k + i)) promise w i = none)
    (steps : List (Step Value)) :
    ∃ k', run w ((((promiseWaiting call answers promise).recorded.wait looks).run steps).run k) =
      (.ok ((none, steps ++ rounds looks), k'), worldAt call w looks) := by
  induction looks generalizing w k steps with
  | zero => exact ⟨k, by simp [rounds, worldAt]; rfl⟩
  | succ looks ih =>
    have hnow : verdict (seenIn w promise) (answers k) w.jobs = none :=
      hbefore 0 (Nat.zero_lt_succ looks)
    have hjob : ∃ ran, (run w (runJob call)).1 = .ok ran := hjobs 0 (Nat.zero_lt_succ looks)
    rw [recorded_goes_on hnow hjob]
    obtain ⟨k', hrun⟩ := ih (w := (run w (runJob call)).2) (k := k + 1)
      (fun i hi => hjobs (i + 1) (Nat.succ_lt_succ hi))
      (fun i hi => (verdictAt_succ w k i).symm.trans (hbefore (i + 1) (Nat.succ_lt_succ hi)))
      (steps ++ round)
    refine ⟨k', hrun.trans ?_⟩
    simp [rounds, List.replicate_succ, worldAt]

theorem run_run' {α σ : Type} {x : StateT σ Machine α} {w w' : World} {a : α} {k k' : σ}
    (h : run w (x.run k) = (.ok (a, k'), w')) : run w (x.run' k) = (.ok a, w') := by
  rw [StateT.run'_eq, ← bind_pure_comp, run_bind_ok h]
  rfl

theorem recordedWait_ends {w : World} {n : Nat} {o : WaitOutcome Value}
    (hjobs : ∀ i < n, ∃ ran, (run (worldAt call w i) (runJob call)).1 = .ok ran)
    (hbefore : ∀ i < n, verdictAt call answers promise w i = none)
    (hend : verdictAt call answers promise w n = some o) {looks : Nat} (hlooks : n < looks) :
    run w (recordedWait call answers promise looks) =
      (.ok (some o, rounds n ++ lastRound o), worldAt call w n) := by
  have hshift : (fun i => answers (0 + i)) = answers := by simp
  obtain ⟨k', hrun⟩ := recorded_first (k := 0) hjobs (hshift ▸ hbefore) (hshift ▸ hend) hlooks []
  exact run_run' hrun

theorem recordedWait_still {w : World} {looks : Nat}
    (hjobs : ∀ i < looks, ∃ ran, (run (worldAt call w i) (runJob call)).1 = .ok ran)
    (hbefore : ∀ i < looks, verdictAt call answers promise w i = none) :
    run w (recordedWait call answers promise looks) =
      (.ok (none, rounds looks), worldAt call w looks) := by
  have hshift : (fun i => answers (0 + i)) = answers := by simp
  obtain ⟨k', hrun⟩ := recorded_still (k := 0) hjobs (hshift ▸ hbefore) []
  exact run_run' hrun

/-- A record changes nothing of the wait for a promise. -/
theorem recordedWait_fst (looks : Nat) :
    Prod.fst <$> recordedWait call answers promise looks =
      ((promiseWaiting call answers promise).wait looks).run' 0 := by
  rw [← Waiting.recorded_wait (promiseWaiting call answers promise) looks []]
  simp [recordedWait, StateT.run'_eq]

theorem run_wait {w w' : World} {looks : Nat} {o : Option (WaitOutcome Value)}
    {steps : List (Step Value)}
    (h : run w (recordedWait call answers promise looks) = (.ok (o, steps), w')) :
    run w (((promiseWaiting call answers promise).wait looks).run' 0) = (.ok o, w') := by
  rw [← recordedWait_fst, ← bind_pure_comp, run_bind_ok h]
  rfl

/-! ### When there is a verdict -/

theorem first_verdict {w : World} {n : Nat} (h : verdictAt call answers promise w n ≠ none) :
    ∃ m ≤ n, ∃ o, verdictAt call answers promise w m = some o ∧
      ∀ i < m, verdictAt call answers promise w i = none := by
  induction n using Nat.strongRecOn with
  | ind n ih =>
    by_cases hbefore : ∀ i < n, verdictAt call answers promise w i = none
    · obtain ⟨o, ho⟩ := Option.ne_none_iff_exists'.mp h
      exact ⟨n, Nat.le_refl n, o, ho, hbefore⟩
    · obtain ⟨i, hi, hne⟩ : ∃ i < n, verdictAt call answers promise w i ≠ none := by
        simpa using hbefore
      obtain ⟨m, hm, hfirst⟩ := ih i hi hne
      exact ⟨m, Nat.le_trans hm (Nat.le_of_lt hi), hfirst⟩

/-- A failing watchdog is a verdict, unless the promise has settled. -/
theorem verdictAt_of_error {w : World} {n : Nat} {halt : Halt} (h : answers n = .error halt) :
    verdictAt call answers promise w n ≠ none := by
  unfold verdictAt verdict
  rw [h]
  cases settled? (seenIn (worldAt call w n) promise) <;> simp

/-- When there is no verdict there is work left: the first job of the queue is performed, and no
other. -/
theorem job_of_no_verdict {w : World} {n : Nat} (h : verdictAt call answers promise w n = none) :
    ∃ job rest, (worldAt call w n).jobs = job :: rest ∧
      worldAt call w (n + 1) =
        (run { worldAt call w n with jobs := rest } (performJob call job)).2 := by
  cases hjobs : (worldAt call w n).jobs with
  | nil =>
    unfold verdictAt verdict at h
    rw [hjobs] at h
    split at h <;> cases h
    contradiction
  | cons job rest =>
    refine ⟨job, rest, rfl, ?_⟩
    rw [worldAt_succ, run_runJob_cons hjobs, run_bind]
    cases run { worldAt call w n with jobs := rest } (performJob call job) with
    | mk r w' => cases r <;> rfl

/-- Without limits, and when the promise settles after some jobs, the first verdict is that it has
settled: a queue that is empty stays so, and nothing would ever settle the promise. -/
theorem verdict_settled {w : World} {n : Nat} (hok : ∀ i, answers i = .ok ())
    (hsettled : settled? (seenIn (worldAt call w n) promise) ≠ none) :
    ∃ m ≤ n, ∃ o, settled? (seenIn (worldAt call w m) promise) = some o ∧
      verdictAt call answers promise w m = some o ∧
      ∀ i < m, verdictAt call answers promise w i = none := by
  have hsome : verdictAt call answers promise w n ≠ none := by
    obtain ⟨o, ho⟩ := Option.ne_none_iff_exists'.mp hsettled
    simp [verdictAt, verdict, ho]
  obtain ⟨m, hm, o, ho, hbefore⟩ := first_verdict hsome
  refine ⟨m, hm, o, ?_, ho, hbefore⟩
  cases hseen : settled? (seenIn (worldAt call w m) promise) with
  | some o' => simpa [verdictAt, verdict, hseen] using ho
  | none =>
    exfalso
    cases hjobs : (worldAt call w m).jobs with
    | cons job rest => simp [verdictAt, verdict, hseen, hok m, hjobs] at ho
    | nil =>
      obtain ⟨k, rfl⟩ := Nat.exists_eq_add_of_le hm
      rw [worldAt_of_idle hjobs] at hsettled
      exact hsettled hseen

/-! ### What the run makes of it -/

theorem run_stage {α : Type} {w w' : World} {action : Machine α} {a : α}
    (h : run w action = (.ok a, w')) (watchdog : Watchdog) (now : Instant) :
    (stage watchdog now action).run.run w = (.ok a, w') := by
  have hlift : (liftM (ExceptT.run action : StateM World _) : Run (Except Stop α)).run.run w =
      (.ok (.ok a), w') := by
    show (Except.ok (run w action).1, (run w action).2) = _
    rw [h]
  unfold stage
  rw [ExceptT.run_bind, StateT.run_bind, hlift]
  rfl

theorem run_stage_bind {α β : Type} {w w' : World} {action : Machine α} {a : α}
    (h : run w action = (.ok a, w')) (watchdog : Watchdog) (now : Instant) (f : α → Run β) :
    (stage watchdog now action >>= f).run.run w = (f a).run.run w' := by
  rw [ExceptT.run_bind, StateT.run_bind, run_stage h]
  rfl

theorem run_promise? {w : World} {state : PromiseState}
    (h : (w.heap.at_ promise).kind = .promise state) :
    run w (promise? (.object promise)) = (.ok (some promise), w) := by
  unfold promise? promiseState?
  dsimp only
  rw [bind_assoc, run_bind_ok (run_heap w), h]
  rfl

/-- The outcome of a wait becomes the value of the run, or the error that it ends with. -/
theorem finalValue_of_wait {looks : Nat} {watchdog : Watchdog} {clock : Nat → Instant}
    {w w' : World} {state : PromiseState} {o : WaitOutcome Value}
    (hpromise : (w.heap.at_ promise).kind = .promise state)
    (hwait : run w (waitWithin looks call watchdog clock promise) = (.ok (some o), w')) :
    (finalValueWithin looks call watchdog clock (.object promise)).run.run w =
      (conclude call watchdog (clock 0) o).run.run w' := by
  unfold finalValueWithin
  rw [run_stage_bind (run_promise? hpromise)]
  exact run_stage_bind hwait _ _ _

end

/-- **Course.** A run waits for a promise, for any guest whose jobs come back and for any answers
of the watchdog. The first verdict ends the wait with its outcome, after one job for each look
before it, from the front of the queue, each right after the watchdog let it go on; nothing is done
after it. The outcome is the value of the run, or the error that it ends with. Without a verdict the
wait goes on. So a promise that settles after some jobs is waited for when there are no limits, and
a watchdog that fails at some time ends every wait. -/
theorem wait_course (call : Call) (answers : Nat → Except Halt Unit) (promise : Ref) (w : World)
    (hjobs : ∀ n, ∃ ran, (run (worldAt call w n) (runJob call)).1 = .ok ran) :
    (∀ looks, Prod.fst <$> recordedWait call answers promise looks =
      ((promiseWaiting call answers promise).wait looks).run' 0) ∧
    (∀ n o, verdictAt call answers promise w n = some o →
      (∀ i < n, verdictAt call answers promise w i = none) → ∀ looks, n < looks →
        run w (recordedWait call answers promise looks) =
          (.ok (some o, rounds n ++ lastRound o), worldAt call w n)) ∧
    (∀ looks, (∀ i < looks, verdictAt call answers promise w i = none) →
      run w (recordedWait call answers promise looks) =
        (.ok (none, rounds looks), worldAt call w looks)) ∧
    (∀ n, verdictAt call answers promise w n = none →
      ∃ job rest, (worldAt call w n).jobs = job :: rest ∧
        worldAt call w (n + 1) =
          (run { worldAt call w n with jobs := rest } (performJob call job)).2) ∧
    ((∀ f this args, Appends (call f this args)) → ∀ n,
      w.jobs <+: ranJobs call w n ++ (worldAt call w n).jobs) ∧
    (∀ watchdog clock state, (∀ look, watchdog.check (clock look) = answers look) →
      (w.heap.at_ promise).kind = .promise state →
      ∀ n o, verdictAt call answers promise w n = some o →
        (∀ i < n, verdictAt call answers promise w i = none) → n < maxLooks →
          (finalValue call watchdog clock (.object promise)).run.run w =
            (conclude call watchdog (clock 0) o).run.run (worldAt call w n)) ∧
    ((∀ i, answers i = .ok ()) → ∀ n, settled? (seenIn (worldAt call w n) promise) ≠ none →
      ∃ m ≤ n, ∃ o, settled? (seenIn (worldAt call w m) promise) = some o ∧
        ∀ looks, (run w (recordedWait call answers promise looks)).1 =
          if m < looks then .ok (some o, rounds m ++ lastRound o) else .ok (none, rounds looks)) ∧
    (∀ n halt, answers n = .error halt → ∃ m ≤ n, ∃ o, ∀ looks, m < looks →
      run w (recordedWait call answers promise looks) =
        (.ok (some o, rounds m ++ lastRound o), worldAt call w m)) := by
  have hends : ∀ n o, verdictAt call answers promise w n = some o →
      (∀ i < n, verdictAt call answers promise w i = none) → ∀ looks, n < looks →
        run w (recordedWait call answers promise looks) =
          (.ok (some o, rounds n ++ lastRound o), worldAt call w n) :=
    fun n o hend hbefore looks hlooks =>
      recordedWait_ends (fun i _ => hjobs i) hbefore hend hlooks
  have hstill : ∀ looks, (∀ i < looks, verdictAt call answers promise w i = none) →
      run w (recordedWait call answers promise looks) =
        (.ok (none, rounds looks), worldAt call w looks) :=
    fun looks hbefore => recordedWait_still (fun i _ => hjobs i) hbefore
  refine ⟨recordedWait_fst, hends, hstill, fun _ => job_of_no_verdict,
    fun hcall n => ranJobs_queue hcall w n, ?_, ?_, ?_⟩
  · intro watchdog clock state hanswers hpromise n o hend hbefore hlooks
    have hwait := run_wait (hends n o hend hbefore maxLooks hlooks)
    rw [← funext hanswers] at hwait
    exact finalValue_of_wait hpromise hwait
  · intro hok n hsettled
    obtain ⟨m, hm, o, hseen, hend, hbefore⟩ := verdict_settled hok hsettled
    refine ⟨m, hm, o, hseen, fun looks => ?_⟩
    split
    · rename_i hlooks
      rw [hends m o hend hbefore looks hlooks]
    · rename_i hlooks
      rw [hstill looks fun i hi => hbefore i (by omega)]
  · intro n halt hfail
    obtain ⟨m, hm, o, hend, hbefore⟩ := first_verdict (verdictAt_of_error hfail)
    exact ⟨m, hm, o, hends m o hend hbefore⟩

/-! ## A job that throws -/

/-- Every function throws. -/
def throwingCall : Call := fun _ _ _ => raise "Error" "broken"

/-- A pending promise, and two jobs: the first throws, and the other is one job away from settling
the promise. -/
def throwingWorld : World where
  heap := #[⟨.promise (.pending 0 []), none, []⟩]
  jobs := [.invoke (.text "f") [], .settleAfter 1 0 (.text "done") true]
  surroundings := bareSurroundings

/-- The promise is waited for, past the job that throws and the one that comes to the queue. -/
theorem wait_course_throwing :
    (∀ n, ∃ ran, (run (worldAt throwingCall throwingWorld n) (runJob throwingCall)).1 = .ok ran) ∧
    run throwingWorld (recordedWait throwingCall (fun _ => .ok ()) 0 5) =
      (.ok (some (.resolved (.text "done")), rounds 3 ++ lastRound (.resolved (.text "done"))),
        worldAt throwingCall throwingWorld 3) := by
  have hjobs : ∀ n, ∃ ran,
      (run (worldAt throwingCall throwingWorld n) (runJob throwingCall)).1 = .ok ran := by
    intro n
    obtain ⟨ran, w', hrun⟩ := returns_runJob throwingCall
      (fun _ _ _ => comesBack_raise _ _) (worldAt throwingCall throwingWorld n)
    exact ⟨ran, by rw [hrun]⟩
  obtain ⟨-, hends, -⟩ := wait_course throwingCall (fun _ => .ok ()) 0 throwingWorld hjobs
  refine ⟨hjobs, hends 3 _ rfl (fun i hi => ?_) 5 (by decide)⟩
  obtain rfl | rfl | rfl : i = 0 ∨ i = 1 ∨ i = 2 := by omega
  all_goals rfl

end GuestLint.Lint
