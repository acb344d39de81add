import Mathlib.Control.Monad.Basic
import GuestLint.Proofs.Lint.Driver

/-!
# What comes of a bundle's promise

A run waits for the promise that its driver script makes. The bundle's promise settles after some
turns of the job queue, and then the script's chain needs its own ones: the results are formatted
when the job of the first handler comes to the front of the queue, and a reason is passed on when
the job of the second one does.

* `PromiseRun.stays_pending`: until the bundle's promise settles its handler waits.
* `PromiseRun.handling_comes`: when it has settled, the job of the handler comes to the front.
* `PromiseRun.formats`, `PromiseRun.refuses`: what comes of the job.
* `outcome_of_promise`: what the run ends with, after any number of turns.
-/
namespace GuestLint.Lint

open Guest

/-- The text that a value has: its conversion, or the word for its type when that throws. -/
inductive TextIn (w : World) (v : Value) : String → Prop where
  | converted {text : String} {w' : World} (h : run w (toText engineCall v) = (.ok text, w')) :
    TextIn w v text
  | unconverted {e : Value} {w' : World}
    (h : run w (toText engineCall v) = (.error (.thrown e), w')) :
    TextIn w v ("<" ++ w'.heap.kindWord v ++ ">")

theorem TextIn.run_describe {w : World} {v : Value} {text : String} (h : TextIn w v text) :
    ∃ w', run w (describe engineCall v) = (.ok text, w') := by
  unfold describe
  rw [run_bind, run_attempt]
  cases h with
  | converted h => exact ⟨_, by rw [h]; rfl⟩
  | unconverted h => exact ⟨_, by rw [h]; rfl⟩

theorem settledState_inj {v v' : Value} {fulfils fulfils' : Bool}
    (h : settledState v fulfils = settledState v' fulfils') : v = v' ∧ fulfils = fulfils' := by
  cases fulfils <;> cases fulfils' <;> cases h <;> exact ⟨rfl, rfl⟩

namespace PromiseRun

variable {context : HostContext} {documents : List String} {ruleset : String}
  {options : List LintOption} (r : PromiseRun context documents ruleset options)

/-- What the driver script hides. -/
def ownSeal : Seal := driverSeal r.world r.sealed_world.1.based r.promise

/-- The job that is there when the bundle's promise has settled. -/
def handling (v : Value) (fulfils : Bool) : Job := (formatReaction r.world).job v fulfils

/-- The job that passes on what the first handler has come to. -/
def passing (v : Value) (fulfils : Bool) : Job := (refuseReaction r.world).job v fulfils

/-- The bundle's promise is pending. -/
def Pends (n : Nat) : Prop :=
  ∃ round reactions,
    ((r.turn n).heap.at_ r.promise).kind = .promise (.pending round reactions)

/-- The bundle's promise has settled. -/
def Settles (n : Nat) (v : Value) (fulfils : Bool) : Prop :=
  ((r.turn n).heap.at_ r.promise).kind = .promise (settledState v fulfils)

/-- The world in which a job is run, when it has been taken off the queue. -/
def taken (n : Nat) (rest : List Job) : World := { r.turn n with jobs := rest }

/-- The script's promise is pending. -/
def Waits (n : Nat) : Prop := seenIn (r.turn n) r.result = .pending

/-! ## Until the bundle's promise settles -/

theorem chain_start : Chain r.world (.object r.bundle) r.start.heap := by
  rw [r.start_heap]
  exact chain_chained _ r.standard.lt

theorem sealed_start : Sealed r.ownSeal r.start :=
  .congr r.start_parts (sealed_chained _ r.sealed_world.1 r.standard.isPromise r.standard.lt)

theorem stands_start :
    Stands r.ownSeal r.start .waiting ∨
      ∃ v fulfils, Stands r.ownSeal r.start (.released v fulfils) := by
  have hjobs := congrArg (List.filter r.ownSeal.settles) r.start_jobs
  obtain h | ⟨v, fulfils, h⟩ := stands_chained (.object r.bundle) r.sealed_world.1
    r.standard.isPromise r.standard.lt
  · exact .inl (h.congr r.start_heap hjobs)
  · exact .inr ⟨v, fulfils, h.congr r.start_heap hjobs⟩

section
variable {r} {n : Nat}

/-- How far the handler of the bundle's promise can have come. -/
theorem phase (h : Stays r.ownSeal r.start (r.turn n)) :
    Stands r.ownSeal (r.turn n) .waiting ∨
      (∃ v fulfils, Stands r.ownSeal (r.turn n) (.released v fulfils)) ∨
      Stands r.ownSeal (r.turn n) .lost := by
  obtain hstart | ⟨v, fulfils, hstart⟩ := r.stands_start
  · obtain ⟨φ, hlead, hφ⟩ := h.phase _ hstart
    cases hlead with
    | stay => exact .inl hφ
    | release v fulfils => exact .inr (.inl ⟨v, fulfils, hφ⟩)
    | lose => exact .inr (.inr hφ)
  · obtain ⟨φ, hlead, hφ⟩ := h.phase _ hstart
    cases hlead
    exact .inr (.inl ⟨v, fulfils, hφ⟩)

/-- While the bundle's promise is pending its handler waits. -/
theorem stands_waiting (h : Stays r.ownSeal r.start (r.turn n)) (hn : r.Pends n) :
    Stands r.ownSeal (r.turn n) .waiting := by
  obtain ⟨round, reactions, hk⟩ := hn
  obtain hwaiting | ⟨v, fulfils, hreleased⟩ | hlost := phase h
  · exact hwaiting
  · obtain hsettled | hnone := hreleased.2.1
    · have hstate := hk.symm.trans hsettled
      cases fulfils <;> cases hstate
    · have hpromise := (congrArg ObjectKind.isPromise hk).symm.trans hnone
      cases hpromise
  · have hpromise := (congrArg ObjectKind.isPromise hk).symm.trans hlost.2.1
    cases hpromise

/-- When the bundle's promise has settled the job of its handler is in the queue. -/
theorem stands_released (h : Stays r.ownSeal r.start (r.turn n)) {v : Value} {fulfils : Bool}
    (hn : r.Settles n v fulfils) : Stands r.ownSeal (r.turn n) (.released v fulfils) := by
  have hnone : ((r.turn n).heap.at_ r.promise).kind.isPromise = false → False := fun hnone => by
    have hpromise := (congrArg ObjectKind.isPromise hn).symm.trans hnone
    cases hpromise
  obtain hwaiting | ⟨v', fulfils', hreleased⟩ | hlost := phase h
  · have hreactions : r.ownSeal.reactionsOn ((r.turn n).heap.at_ r.promise) = [] := by
      unfold Seal.reactionsOn
      rw [hn]
      cases fulfils <;> rfl
    have hsome := hreactions.symm.trans hwaiting.2.1
    cases hsome
  · obtain hsettled | hgone := hreleased.2.1
    · obtain ⟨rfl, rfl⟩ := settledState_inj (ObjectKind.promise.inj (hn.symm.trans hsettled))
      exact hreleased
    · exact (hnone hgone).elim
  · exact (hnone hlost.2.1).elim

/-- **Waiting.** Nothing happens to the script's objects until the bundle's promise settles. -/
theorem stays_pending (h : ∀ i < n, r.Pends i) : Stays r.ownSeal r.start (r.turn n) :=
  stays_turns r.sealed_start fun i hi hstays => (stands_waiting hstays (h i hi)).1

theorem chain_turn (h : Stays r.ownSeal r.start (r.turn n)) :
    Chain r.world (.object r.bundle) (r.turn n).heap :=
  r.chain_start.stays r.sealed_world.1 h

theorem seen_newPromise {w : World} {p : Ref} (h : w.heap.at_ p = newPromise) :
    seenIn w p = .pending := by
  unfold seenIn
  rw [h]
  rfl

theorem waits_of_stays (h : Stays r.ownSeal r.start (r.turn n)) : r.Waits n :=
  seen_newPromise (chain_turn h).result

/-- **In front.** When the bundle's promise has settled, the job of its handler comes to the front
of the queue, and nothing happens to the script's objects before that. -/
theorem handling_comes (h : Stays r.ownSeal r.start (r.turn n)) {v : Value} {fulfils : Bool}
    (hn : r.Settles n v fulfils) :
    ∃ m rest, n ≤ m ∧ (r.turn m).jobs = r.handling v fulfils :: rest ∧
      ∀ i, n ≤ i → i ≤ m → Stays r.ownSeal r.start (r.turn i) := by
  obtain ⟨k, rest, hfront, hstays⟩ := own_comes_to_front h.is (stands_released h hn).1
  refine ⟨n + k, rest, Nat.le_add_right n k, ?_, fun i hi hik => ?_⟩
  · rw [turn, worldAt_add]
    exact hfront
  · obtain ⟨j, rfl⟩ := Nat.exists_eq_add_of_le hi
    rw [turn, worldAt_add]
    exact h.trans (hstays j (Nat.le_of_add_le_add_left hik))

/-! ## When the job of a handler is run -/

/-- What a job in front of the queue leaves is the world after the turn. -/
theorem turn_succ {w : World} {job : Job} {rest : List Job} (hjobs : (r.turn n).jobs = job :: rest)
    (hrun : run (r.taken n rest) (performJob engineCall job) = (.ok (), w)) :
    r.turn (n + 1) = w := by
  rw [turn, worldAt_succ]
  show (run (r.turn n) (runJob engineCall)).2 = w
  rw [run_runJob_cons hjobs]
  exact congrArg Prod.snd (run_bind_ok hrun _)

theorem hidden_result {i : Nat} (hi : i < 5) : r.ownSeal.hidden (r.result + i) = true :=
  (driverSeal_hidden r.sealed_world.1).mpr ⟨Nat.le_add_right _ i, Nat.add_lt_add_left hi _⟩

instance : Contained r.ownSeal nestedCall := contained_invoke _

section
variable {v : Value} {fulfils : Bool} {rest : List Job}

/-- When the handler's job has been taken off the queue, no job for the script's promises is
left. -/
theorem stands_spent (h : Stays r.ownSeal r.start (r.turn n))
    (hjobs : (r.turn n).jobs = r.handling v fulfils :: rest) :
    Stands r.ownSeal (r.taken n rest) (.spent []) := by
  have hown : r.ownSeal.jobsIn (r.turn n) =
      r.handling v fulfils :: rest.filter r.ownSeal.settles := by
    rw [Seal.jobsIn, hjobs]
    exact List.filter_cons_of_pos (hidden_result (i := 2) (by decide))
  obtain hwaiting | ⟨v', fulfils', hreleased⟩ | hlost := phase h
  · cases hown.symm.trans hwaiting.1
  · obtain ⟨-, hrest⟩ := List.cons.inj (hown.symm.trans hreleased.1)
    exact ⟨hrest, hreleased.2.2⟩
  · cases hown.symm.trans hlost.1

/-- What the handler is given is the guest's. -/
theorem clear_handed (h : Stays r.ownSeal r.start (r.turn n))
    (hjobs : (r.turn n).jobs = r.handling v fulfils :: rest) :
    Refers.clear r.ownSeal (r.turn n).heap.size v :=
  (h.is.clear.jobs (r.handling v fulfils) (hjobs ▸ List.mem_cons_self)).1

/-- The bundle's formatting stays within. -/
theorem ends_format (h : Stays r.ownSeal r.start (r.turn n))
    (hjobs : (r.turn n).jobs = r.handling v fulfils :: rest) {ended : Except Stop Value × World}
    (hrun : run (r.taken n rest) (formatCall nestedCall (.object r.bundle) v) = ended) :
    Within r.ownSeal (r.taken n rest) ended.2 ∧
      Ended r.ownSeal (fun m => Refers.clear r.ownSeal m) ended := by
  have hbundle : Clear r.ownSeal (r.turn n).heap.size (Value.object r.bundle) := by
    have hlt := r.sealed_world.2
    refine ⟨⟨driverSeal_shown r.sealed_world.1 hlt, .inl (Nat.lt_of_lt_of_le hlt ?_)⟩⟩
    refine Nat.le_trans ?_ h.size
    rw [r.start_heap, chained_size _ r.standard.lt]
    exact Nat.le_add_right _ 5
  have houtput : Clear r.ownSeal (r.turn n).heap.size v := ⟨clear_handed h hjobs⟩
  have hguards : Guards r.ownSeal (r.turn n).heap.size
    (formatCall nestedCall (.object r.bundle) v) := inferInstance
  exact hrun ▸ hguards.ensures (r.taken n rest) (Nat.le_refl _) (h.is.drop hjobs)

/-- A promise has settled, and another one after it. -/
theorem seen_settled {w : World} {p q : Ref} (hp : p < w.heap.size) (hne : p ≠ q) (a : Value)
    (fulfils : Bool) {state : PromiseState} {jobs jobs' : List Job} :
    seenIn ((w.promiseSet p (settledState a fulfils) jobs).promiseSet q state jobs') p =
      if fulfils then .resolved a else .rejected a := by
  unfold seenIn
  rw [promiseSet_at_ne hne, promiseSet_at_self hp]
  cases fulfils <;> rfl

theorem typeWord_promiseSet {s : Seal} {w : World} {k : Nat} {a : Value} {p : Ref}
    (hp : s.hidden p = true) (ha : Refers.clear s k a) (state : PromiseState) (jobs : List Job) :
    (w.promiseSet p state jobs).heap.typeWord a = w.heap.typeWord a := by
  cases a with
  | object q =>
    have hne : q ≠ p := by
      rintro rfl
      cases hp.symm.trans ha.shown
    simp only [Heap.typeWord, Heap.isFunction, Heap.function?, promiseSet_at_ne hne]
    rfl
  | _ => rfl

/-- **Formatted.** What the bundle's formatting comes to settles the script's promise. -/
theorem formats (h : Stays r.ownSeal r.start (r.turn n))
    (hjobs : (r.turn n).jobs = r.handling v true :: rest) {a : Value} {w : World}
    (hrun : run (r.taken n rest) (formatCall nestedCall (.object r.bundle) v) = (.ok a, w))
    (ha : ¬ w.heap.Thenable a) :
    seenIn (r.turn (n + 1)) r.result = .resolved a ∧
      (r.turn (n + 1)).heap.typeWord a = w.heap.typeWord a := by
  obtain ⟨hin, hclear⟩ := ends_format h hjobs hrun
  have hchain : Chain r.world (.object r.bundle) (r.taken n rest).heap := chain_turn h
  have hchain' := hchain.stays r.sealed_world.1 hin.toStays
  have hlt : r.result < w.heap.size := hin.is.bounded _ (hidden_result (i := 0) (by decide))
  rw [turn_succ hjobs (run_formatted hchain hrun hchain' ha)]
  have htype := typeWord_promiseSet (w := w) (hidden_result (i := 0) (by decide)) hclear
  have htype' := fun w => typeWord_promiseSet (w := w) (hidden_result (i := 2) (by decide)) hclear
  exact ⟨seen_settled hlt (Nat.ne_of_lt (Nat.lt_add_of_pos_right Nat.two_pos)) a true,
    (htype' _ _ _).trans (htype _ _)⟩

/-- **Refused.** What is thrown while the bundle formats, or the reason of its promise, settles the
script's promise when the job that passes it on comes to the front. -/
theorem refuses (h : Stays r.ownSeal r.start (r.turn n))
    (hjobs : (r.turn n).jobs = r.handling v fulfils :: rest) {e : Value} {w : World}
    (hrun : fulfils = true ∧ run (r.taken n rest)
        (formatCall nestedCall (.object r.bundle) v) = (.error (.thrown e), w) ∨
      fulfils = false ∧ v = e ∧ r.taken n rest = w) :
    ∃ k, n < k ∧ seenIn (r.turn (k + 1)) r.result = .rejected e ∧
      (∀ i, n < i → i ≤ k → r.Waits i) ∧ (r.turn k).jobs ≠ [] := by
  have hchain : Chain r.world (.object r.bundle) (r.taken n rest).heap := chain_turn h
  obtain ⟨hin, hclear⟩ : Stays r.ownSeal (r.taken n rest) w ∧
      Refers.clear r.ownSeal w.heap.size e := by
    obtain ⟨-, hrun⟩ | ⟨-, rfl, rfl⟩ := hrun
    · obtain ⟨hin, hclear⟩ := ends_format h hjobs hrun
      exact ⟨hin.toStays, hclear⟩
    · exact ⟨.refl (h.is.drop hjobs), clear_handed h hjobs⟩
  have hchain' := hchain.stays r.sealed_world.1 hin
  have hhop := turn_succ hjobs (run_refused hchain hchain' hrun)
  -- The world after the first hop, in which the job of the second handler is the last one.
  let u := w.promiseSet (r.result + 2) (.rejected e) [r.passing e false]
  have hpassing : Refers.clear r.ownSeal w.heap.size [r.passing e false] := fun job hjob => by
    cases List.mem_singleton.mp hjob
    have hderived : r.ownSeal.hidden (r.result + 4) = true := hidden_result (by decide)
    exact ⟨hclear, fun hd => nomatch hderived.symm.trans hd⟩
  have hsealed : Sealed r.ownSeal u :=
    hin.is.promiseSet (hidden_result (i := 2) (by decide)) _ hpassing
  have hown : r.ownSeal.jobsIn u = [r.passing e false] := by
    obtain ⟨φ, hlead, hφ⟩ := hin.phase _ (stands_spent h hjobs)
    cases hlead
    show List.filter _ (w.jobs ++ [r.passing e false]) = _
    rw [List.filter_append]
    show r.ownSeal.jobsIn w ++ _ = _
    rw [hφ.1]
    exact List.filter_cons_of_pos (hidden_result (i := 4) (by decide))
  obtain ⟨j, rest', hfront, hstays⟩ := own_comes_to_front hsealed hown
  have hturn : ∀ i, r.turn (n + 1 + i) = worldAt engineCall u i := fun i => by
    rw [turn, worldAt_add]
    exact congrArg (worldAt engineCall · i) hhop
  have hat : ∀ i ≤ j, ∀ c < 5, c ≠ 2 →
      (r.turn (n + 1 + i)).heap.at_ (r.result + c) = w.heap.at_ (r.result + c) := by
    intro i hi c hc hne
    rw [hturn, (hstays i hi).hidden _ (hidden_result hc)]
    exact promiseSet_at_ne (fun heq => hne (Nat.add_left_cancel heq)) _ _
  have hjobs' : (r.turn (n + 1 + j)).jobs = r.passing e false :: rest' := hturn j ▸ hfront
  have hlast := hat j (Nat.le_refl j)
  have hpassed := turn_succ hjobs' (run_passed (e := e)
    ((hlast 0 (by decide) (by decide)).trans hchain'.result)
    ((hlast 3 (by decide) (by decide)).trans hchain'.refuse)
    ((hlast 4 (by decide) (by decide)).trans hchain'.last))
  refine ⟨n + 1 + j, by omega, ?_, fun i hi hij => ?_, by simp [hjobs']⟩
  · have hlt : r.result < (r.taken (n + 1 + j) rest').heap.size := by
      show r.result < (r.turn (n + 1 + j)).heap.size
      rw [hturn]
      exact (hstays j (Nat.le_refl j)).is.bounded _ (hidden_result (i := 0) (by decide))
    rw [hpassed]
    exact seen_settled hlt (Nat.ne_of_lt (Nat.lt_add_of_pos_right (by decide))) e false
  · obtain ⟨i, rfl⟩ := Nat.exists_eq_add_of_le hi
    have hle : i ≤ j := by omega
    exact seen_newPromise ((hat i hle 0 (by decide) (by decide)).trans hchain'.result)

end

/-! ## The end of the run -/

theorem jobs_ne_nil {i m : Nat} (hle : i ≤ m) (h : (r.turn m).jobs ≠ []) :
    (r.turn i).jobs ≠ [] := by
  intro hidle
  obtain ⟨k, rfl⟩ := Nat.exists_eq_add_of_le hle
  exact h ((congrArg World.jobs (worldAt_of_idle hidle k)).trans hidle)

theorem no_verdict (hn : r.Waits n) (hjobs : (r.turn n).jobs ≠ []) :
    verdictAt engineCall (fun _ => .ok ()) r.result r.start n = none := by
  obtain ⟨job, rest, hcons⟩ := List.exists_cons_of_ne_nil hjobs
  show verdict (seenIn (r.turn n) r.result) (.ok ()) (r.turn n).jobs = none
  rw [hn, hcons]
  rfl

/-- Every turn of a run comes back while the script's promise is pending. -/
def ComesBack (r : PromiseRun context documents ruleset options) : Prop :=
  ∀ i, r.Waits i → ∃ ran, (run (r.turn i) (runJob engineCall)).1 = .ok ran

theorem result_start : ∃ state, (r.start.heap.at_ r.result).kind = .promise state :=
  ⟨.pending 0 [], congrArg Object.kind r.chain_start.result⟩

/-- A run in which the script's promise settles. -/
theorem lint_settles (hback : r.ComesBack) (hwaits : ∀ i ≤ n, r.Waits i)
    (hjobs : (r.turn n).jobs ≠ []) {o : WaitOutcome Value}
    (hend : settled? (seenIn (r.turn (n + 1)) r.result) = some o) {looks : Nat}
    (hlooks : n + 1 < looks) :
    lintWithin looks context documents ruleset options =
      (conclude engineCall {} (context.clock 0) o >>= readReport {} (context.clock 0)).run.run
        (r.turn (n + 1)) := by
  have hle : ∀ i < n + 1, i ≤ n := fun i => Nat.le_of_lt_succ
  refine r.lint_ends r.result_start (fun i hi => hback i (hwaits i (hle i hi)))
    (fun i hi => no_verdict (hwaits i (hle i hi)) (jobs_ne_nil (hle i hi) hjobs)) ?_ hlooks
  show verdict (seenIn (r.turn (n + 1)) r.result) (.ok ()) _ = some o
  unfold verdict
  rw [hend]

/-- A run in which the queue is empty and the script's promise is pending still. -/
theorem lint_stalls (hback : r.ComesBack) (hwaits : ∀ i ≤ n, r.Waits i)
    (hjobs : (r.turn n).jobs = []) {looks : Nat} (hlooks : n < looks) :
    (lintWithin looks context documents ruleset options).1 = .error .stalled := by
  have hend : verdictAt engineCall (fun _ => .ok ()) r.result r.start n = some .stalled := by
    show verdict (seenIn (r.turn n) r.result) (.ok ()) (r.turn n).jobs = _
    rw [hwaits n (Nat.le_refl n), hjobs]
    rfl
  obtain ⟨m, hm, o, ho, hbefore⟩ := first_verdict (hend ▸ Option.some_ne_none _)
  have hstalled : o = .stalled := by
    have hverdict : verdict (seenIn (r.turn m) r.result) (.ok ()) (r.turn m).jobs = some o := ho
    rw [hwaits m hm] at hverdict
    cases hq : (r.turn m).jobs with
    | nil =>
      rw [hq] at hverdict
      exact (Option.some.inj hverdict).symm
    | cons job rest =>
      rw [hq] at hverdict
      cases hverdict
  rw [r.lint_ends r.result_start
    (fun i hi => hback i (hwaits i (Nat.le_trans (Nat.le_of_lt hi) hm))) hbefore ho
    (Nat.lt_of_le_of_lt hm hlooks), hstalled]
  rfl

theorem lint_formatted (hback : r.ComesBack) (hwaits : ∀ i ≤ n, r.Waits i)
    (hjobs : (r.turn n).jobs ≠ []) {a : Value}
    (hend : seenIn (r.turn (n + 1)) r.result = .resolved a) {looks : Nat} (hlooks : n + 1 < looks) :
    (lintWithin looks context documents ruleset options).1 =
      match a with
      | .text json => (Report.decode json).mapError .decode
      | a => .error (.unknownReturn ((r.turn (n + 1)).heap.typeWord a)) := by
  rw [lint_settles hback hwaits hjobs (congrArg settled? hend) hlooks]
  cases a with
  | text json =>
    show ((readReport {} (context.clock 0) (.text json)).run.run (r.turn (n + 1))).1 = _
    unfold readReport
    dsimp only
    cases Report.decode json <;> rfl
  | _ => rfl

theorem lint_refused (hback : r.ComesBack) (hwaits : ∀ i ≤ n, r.Waits i)
    (hjobs : (r.turn n).jobs ≠ []) {e : Value}
    (hend : seenIn (r.turn (n + 1)) r.result = .rejected e) {text : String}
    (htext : TextIn (r.turn (n + 1)) e text) {looks : Nat} (hlooks : n + 1 < looks) :
    (lintWithin looks context documents ruleset options).1 = .error (.promiseRejected text) := by
  obtain ⟨w, hdescribe⟩ := htext.run_describe
  rw [lint_settles hback hwaits hjobs (congrArg settled? hend) hlooks]
  unfold conclude
  dsimp only
  rw [bind_assoc, run_stage_bind hdescribe]
  rfl

end

end PromiseRun

section
variable {context : HostContext} {documents : List String} {ruleset : String}
  {options : List LintOption}

/-- **Outcome.** A run with the default driver script and no limits, whose bundle exports a promise.
When the promise is fulfilled, after any number of turns, the bundle formats its results as soon as
the handler's job has come to the front of the queue; a text that this comes to is decoded, for
another value that settles a promise at once the word for its type is told, and what is thrown is
the reason that the run is rejected with. When the promise is rejected, its reason is that of the
run. And when it never settles and the queue is empty, the run is stalled. -/
theorem outcome_of_promise (r : PromiseRun context documents ruleset options)
    (hback : r.ComesBack) (n : Nat) (hpends : ∀ i < n, r.Pends i) :
    (∀ v, r.Settles n v true → ∃ m rest, n ≤ m ∧ (r.turn m).jobs = r.handling v true :: rest ∧
      ∀ ended w, run (r.taken m rest) (formatCall nestedCall (.object r.bundle) v) = (ended, w) →
        (∀ text, ended = .ok (.text text) → ∀ looks, m + 1 < looks →
          (lintWithin looks context documents ruleset options).1 =
            (Report.decode text).mapError .decode) ∧
        (∀ a, ended = .ok a → (∀ text, a ≠ .text text) → ¬ w.heap.Thenable a →
          ∀ looks, m + 1 < looks →
            (lintWithin looks context documents ruleset options).1 =
              .error (.unknownReturn (w.heap.typeWord a))) ∧
        (∀ e, ended = .error (.thrown e) → ∃ k, m < k ∧ ∀ text, TextIn (r.turn k) e text →
          ∀ looks, k < looks →
            (lintWithin looks context documents ruleset options).1 =
              .error (.promiseRejected text))) ∧
    (∀ e, r.Settles n e false → ∃ k, n < k ∧ ∀ text, TextIn (r.turn k) e text →
      ∀ looks, k < looks →
        (lintWithin looks context documents ruleset options).1 = .error (.promiseRejected text)) ∧
    ((r.turn n).jobs = [] → ∀ looks, n < looks →
      (lintWithin looks context documents ruleset options).1 = .error .stalled) := by
  have hstays := r.stays_pending hpends
  have hwaiting : ∀ i ≤ n, r.Waits i := fun i hi =>
    r.waits_of_stays (r.stays_pending fun j hj => hpends j (Nat.lt_of_lt_of_le hj hi))
  -- The script's promise is pending until the handler's job is run.
  have hwaits : ∀ {m}, (∀ i, n ≤ i → i ≤ m → Stays r.ownSeal r.start (r.turn i)) →
      ∀ i ≤ m, r.Waits i := fun hall i hi =>
    (Nat.le_total i n).elim (hwaiting i) fun hle => r.waits_of_stays (hall i hle hi)
  -- A reason settles it when the job that passes it on is run.
  have hrefused : ∀ {m rest v fulfils e w}, n ≤ m →
      (r.turn m).jobs = r.handling v fulfils :: rest →
      (∀ i, n ≤ i → i ≤ m → Stays r.ownSeal r.start (r.turn i)) →
      (fulfils = true ∧ run (r.taken m rest) (formatCall nestedCall (.object r.bundle) v) =
          (.error (.thrown e), w) ∨ fulfils = false ∧ v = e ∧ r.taken m rest = w) →
      ∃ k, m < k ∧ ∀ text, TextIn (r.turn k) e text → ∀ looks, k < looks →
        (lintWithin looks context documents ruleset options).1 =
          .error (.promiseRejected text) := by
    intro m rest v fulfils e w hnm hjobs hall hrun
    obtain ⟨k, hmk, hend, hlater, hjobs'⟩ := r.refuses (hall m hnm (Nat.le_refl m)) hjobs hrun
    refine ⟨k + 1, Nat.lt_succ_of_lt hmk, fun text htext looks hlooks => ?_⟩
    refine r.lint_refused hback (fun i hi => ?_) hjobs' hend htext hlooks
    exact (Nat.lt_or_ge m i).elim (fun hlt => hlater i hlt hi) (hwaits hall i)
  refine ⟨fun v hv => ?_, fun e he => ?_, fun hidle looks hlooks => ?_⟩
  · obtain ⟨m, rest, hnm, hjobs, hall⟩ := r.handling_comes hstays hv
    refine ⟨m, rest, hnm, hjobs, fun ended w hrun => ⟨?_, ?_, ?_⟩⟩
    · rintro text rfl looks hlooks
      obtain ⟨hend, -⟩ := r.formats (hall m hnm (Nat.le_refl m)) hjobs hrun id
      exact r.lint_formatted hback (hwaits hall) (by simp [hjobs]) hend hlooks
    · rintro a rfl hnotext hplain looks hlooks
      obtain ⟨hend, htype⟩ := r.formats (hall m hnm (Nat.le_refl m)) hjobs hrun hplain
      rw [r.lint_formatted hback (hwaits hall) (by simp [hjobs]) hend hlooks, ← htype]
      cases a with
      | text json => exact absurd rfl (hnotext json)
      | _ => rfl
    · rintro e rfl
      exact hrefused hnm hjobs hall (.inl ⟨rfl, hrun⟩)
  · obtain ⟨m, rest, hnm, hjobs, hall⟩ := r.handling_comes hstays he
    obtain ⟨k, hmk, htext⟩ := hrefused hnm hjobs hall (.inr ⟨rfl, rfl, rfl⟩)
    exact ⟨k, Nat.lt_of_le_of_lt hnm hmk, htext⟩
  · exact r.lint_stalls hback hwaiting hidle hlooks

end

/-! ### Results after two turns -/

deriving instance DecidableEq for Stop, Reaction, PromiseState, Job

/-- A host without files. The results of its bundle come after some turns. -/
def promisingContext : HostContext where
  host :=
    { read := fun _ => .error .missing
      stat := fun _ => .error .missing
      lstat := fun _ => .error .missing }
  currentPath := .ok "/"
  programs :=
    [("bundle:1",
      [.lint (.resolve (.record [("results", .list []), ("resolvedRuleset", .text "r")]) 1),
        .format .results])]

/-- Runs the bundle without builtin modules. -/
def promisingOptions : List LintOption :=
  [.dist (Utf8.encode "bundle:1"), .before fun _ => .ok .skip]

/-- The settings that the options come to. -/
def promisingConfig : Config where
  dist := Utf8.encode "bundle:1"
  workingDirectory := "/"
  before := some fun _ => .ok .skip

/-- The world in which the bundle has been loaded. -/
def promisingLoaded : World :=
  ((loadBundle promisingContext promisingConfig [] "r").run.run
    (startWorld promisingContext (bundleLoader promisingContext.host promisingConfig.dist))).2

/-- The world in which the script has the bundle. -/
def promisingWorld : World :=
  (run (scriptWorld promisingLoaded) (callRequire engineCall bundleName)).2

/-- A run by how it ends and the world that it leaves. -/
theorem eq_ended {α β : Type} {p : α × β} {a : α} (h : p.1 = a) : p = (a, p.2) := Prod.ext h rfl

/-- The run of the bundle. -/
def promisingRun : PromiseRun promisingContext [] "r" promisingOptions where
  config := promisingConfig
  settled := rfl
  unlimited := ⟨rfl, rfl, rfl⟩
  script := rfl
  unlisted := by decide +kernel
  loaded := promisingLoaded
  loads := eq_ended (by decide +kernel)
  world := promisingWorld
  bundle := 38
  requires := eq_ended (by decide +kernel)
  promise := 42
  exports := by decide +kernel
  standard :=
    ⟨by decide +kernel, by unfold Heap.Holds; decide +kernel, by unfold Heap.Holds; decide +kernel,
      by unfold Heap.Holds; decide +kernel⟩

/-- The job of the handler is in front at one turn, and the job of the other at the next. -/
theorem promising_jobs :
    (promisingRun.turn 2).jobs = [promisingRun.handling (.object 40) true] ∧
      (promisingRun.turn 3).jobs = [promisingRun.passing .undefined true] ∧
      ∀ i, (promisingRun.turn (4 + i)).jobs = [] := by
  have hlast : (promisingRun.turn 4).jobs = [] := by decide +kernel
  refine ⟨by decide +kernel, by decide +kernel, fun i => ?_⟩
  exact (congrArg World.jobs (worldAt_of_idle hlast i)).trans hlast

theorem promising_comesBack : promisingRun.ComesBack := by
  intro i _
  obtain hlt | ⟨k, rfl⟩ := (Nat.lt_or_ge i 4).imp_right Nat.exists_eq_add_of_le
  · refine ⟨true, ?_⟩
    obtain rfl | rfl | rfl | rfl : i = 0 ∨ i = 1 ∨ i = 2 ∨ i = 3 := by omega
    all_goals decide +kernel
  · exact ⟨false, by rw [run_runJob_nil (promising_jobs.2.2 k)]⟩

/-- The results come after two turns, and are formatted in the one after. -/
theorem outcome_of_promise_later :
    (∀ i < 2, promisingRun.Pends i) ∧ promisingRun.Settles 2 (.object 40) true ∧
      (lint promisingContext [] "r" promisingOptions).1 = .ok [] := by
  obtain ⟨hjobs₂, hjobs₃, hjobs₄⟩ := promising_jobs
  have hpends : ∀ i < 2, promisingRun.Pends i := by
    intro i hi
    refine ⟨0, [formatReaction promisingWorld], state?_eq_some.mp ?_⟩
    obtain rfl | rfl : i = 0 ∨ i = 1 := by omega
    all_goals decide +kernel
  have hsettles : promisingRun.Settles 2 (.object 40) true :=
    state?_eq_some.mp (by decide +kernel)
  obtain ⟨hfulfilled, -⟩ := outcome_of_promise promisingRun promising_comesBack 2 hpends
  obtain ⟨m, rest, hm, hfront, hended⟩ := hfulfilled (.object 40) hsettles
  -- The handler's job is in front at this turn only.
  obtain rfl : m = 2 := by
    obtain rfl | rfl | ⟨k, rfl⟩ : m = 2 ∨ m = 3 ∨ ∃ k, m = 4 + k :=
      (Nat.lt_or_ge m 4).elim (fun _ => by omega) fun h =>
        .inr (.inr (Nat.exists_eq_add_of_le h))
    · rfl
    · cases hjobs₃.symm.trans hfront
    · cases (hjobs₄ k).symm.trans hfront
  obtain ⟨-, rfl⟩ := List.cons.inj (hjobs₂.symm.trans hfront)
  have hformat : (run (promisingRun.taken 2 [])
      (formatCall nestedCall (.object promisingRun.bundle) (.object 40))).1 =
      .ok (.text "[]") := by
    decide +kernel
  obtain ⟨htext, -⟩ := hended _ _ (eq_ended hformat)
  refine ⟨hpends, hsettles, (htext "[]" rfl maxLooks (by decide)).trans ?_⟩
  decide +kernel

end GuestLint.Lint
