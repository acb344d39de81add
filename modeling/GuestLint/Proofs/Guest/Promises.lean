import GuestLint.Proofs.Guest.Guards

/-!
# What promises do

A promise that settles puts the jobs of its reactions into the queue, in the order in which the
reactions were added. Here is what the operations on promises come to when the state of the promise
is known, and that they stay within a seal: the one thing that they do to a hidden reaction is that
its job comes into the queue.

* `run_settle`, `run_resolve_plain`, `run_settleInRound`: the operations.
* `within_wait`, `within_settled`: what becomes of hidden reactions.
* `guards_performJob`: every job but those that settle hidden promises stays within.
-/
namespace GuestLint.Guest

variable {s : Seal} {n : Nat} {w : World} {r : Ref}

/-! ## What the operations do -/

/-- The state of an object that is a promise. -/
def Object.state? (o : Object) : Option PromiseState :=
  match o.kind with
  | .promise state => some state
  | _ => none

theorem state?_eq_some {o : Object} {state : PromiseState} :
    o.state? = some state ↔ o.kind = .promise state := by
  unfold Object.state?
  cases o.kind <;> simp

theorem run_promiseState? (w : World) (r : Ref) :
    run w (promiseState? r) = (.ok (w.heap.at_ r).state?, w) := by
  unfold promiseState?
  rw [run_bind_ok (run_heap w)]
  unfold Object.state?
  cases (w.heap.at_ r).kind <;> rfl

/-- The object as a promise in a state. -/
def Object.withState (state : PromiseState) (o : Object) : Object :=
  { o with kind := .promise state }

/-- The world with an object as a promise in a state, and with more jobs. -/
def World.promiseSet (w : World) (r : Ref) (state : PromiseState) (jobs : List Job) : World :=
  { w with heap := w.heap.modify r (·.withState state), jobs := w.jobs ++ jobs }

theorem run_enqueue (w : World) (job : Job) :
    run w (enqueue job) = (.ok (), { w with jobs := w.jobs ++ [job] }) := rfl

theorem run_setPromise (w : World) (r : Ref) (state : PromiseState) :
    run w (setPromise r state) = (.ok (), { w with heap := w.heap.modify r (·.withState state) }) :=
  rfl

theorem run_enqueueAll {α : Type} (w : World) (xs : List α) (job : α → Job) :
    run w (forIn xs PUnit.unit fun x _ => do
        enqueue (job x)
        pure (ForInStep.yield PUnit.unit)) =
      (.ok (), { w with jobs := w.jobs ++ xs.map job }) := by
  induction xs generalizing w with
  | nil => simp
  | cons x xs ih =>
    rw [List.forIn_cons, bind_assoc, run_bind_ok (run_enqueue w _)]
    simp only [pure_bind]
    rw [ih]
    simp

/-- A pending promise settles, and its reactions become jobs. -/
theorem run_settle {round : Nat} {reactions : List Reaction}
    (h : (w.heap.at_ r).kind = .promise (.pending round reactions)) (v : Value) (fulfils : Bool) :
    run w (settle r v fulfils) =
      (.ok (), w.promiseSet r (settledState v fulfils) (reactions.map (·.job v fulfils))) := by
  unfold settle
  rw [run_bind_ok (run_promiseState? w r), state?_eq_some.mpr h]
  dsimp only
  rw [run_bind_ok (run_setPromise w r _),
    run_bind_ok (run_enqueueAll _ reactions fun reaction => reaction.job v fulfils)]
  rfl

/-- What is not a pending promise is left as it is. -/
theorem run_settle_other
    (h : ∀ round reactions, (w.heap.at_ r).kind ≠ .promise (.pending round reactions)) (v : Value)
    (fulfils : Bool) : run w (settle r v fulfils) = (.ok (), w) := by
  unfold settle
  rw [run_bind_ok (run_promiseState? w r)]
  cases hstate : (w.heap.at_ r).state? with
  | none => rfl
  | some state =>
    cases state with
    | pending round reactions => exact absurd (state?_eq_some.mp hstate) (h round reactions)
    | _ => rfl

/-- A value that no job has to be waited for. -/
def Heap.Thenable (h : Heap) : Value → Prop
  | .object r => h.isFunction ((h.find r "then").getD .undefined) = true
  | _ => False

/-- A value without a `then` method settles the promise. -/
theorem run_resolve_plain {v : Value} (hv : ¬ w.heap.Thenable v) :
    run w (resolve r v) = run w (settle r v true) := by
  unfold resolve
  cases v with
  | object r' =>
    have hget : run w (attempt (getProperty (.object r') "then")) =
        (.ok (.ok ((w.heap.find r' "then").getD .undefined)), w) := rfl
    have hmethod : w.heap.isFunction ((w.heap.find r' "then").getD .undefined) = false :=
      Bool.eq_false_iff.mpr hv
    rw [run_bind_ok hget]
    dsimp only
    rw [run_bind_ok (run_heap w), hmethod]
    rfl
  | _ => rfl

/-- A settling function works in its own round. -/
theorem run_settleInRound {round : Nat} {reactions : List Reaction}
    (h : (w.heap.at_ r).kind = .promise (.pending round reactions)) (fulfils : Bool) (v : Value) :
    run w (settleInRound r round fulfils v) =
      run w (if fulfils then resolve r v else settle r v false) := by
  unfold settleInRound
  rw [run_bind_ok (run_promiseState? w r), state?_eq_some.mpr h]
  dsimp only
  rw [if_pos rfl]
  rfl

/-- The value that a computation throws is a value of the one that attempts it. -/
theorem run_attempt {α : Type} (w : World) (x : Machine α) :
    run w (attempt x) =
      match run w x with
      | (.ok a, w) => (.ok (.ok a), w)
      | (.error (.thrown v), w) => (.ok (.error v), w)
      | (.error stop, w) => (.error stop, w) := by
  show run w (tryCatchThe Stop (Except.ok (ε := Value) <$> x) _) = _
  rw [run_tryCatch, ← bind_pure_comp, run_bind]
  cases run w x with
  | mk result w' =>
    cases result with
    | ok a => rfl
    | error stop => cases stop <;> rfl

/-! ## Hidden reactions -/

theorem Sealed.reactions_clear (hw : Sealed s w) (hr : s.hidden r = false) {round : Nat}
    {reactions : List Reaction} (h : (w.heap.at_ r).kind = .promise (.pending round reactions)) :
    Refers.clear s w.heap.size reactions := by
  have hkind := (hw.clear_at hr).kind
  rw [h] at hkind
  exact hkind

/-- Jobs come to the queue, none of them for a hidden promise. -/
theorem within_enqueue (hw : Sealed s w) {jobs : List Job}
    (hclear : Refers.clear s w.heap.size jobs) (hown : ∀ job ∈ jobs, s.settles job = false) :
    Within s w { w with jobs := w.jobs ++ jobs } := by
  refine ⟨⟨⟨hw.based, hw.bounded, hw.watched, ⟨hw.clear.heap, ?_, hw.clear.channels,
    hw.clear.stored, hw.clear.kept⟩⟩, Nat.le_refl _, fun _ _ => rfl, rfl, ?_⟩,
    List.prefix_append _ _⟩
  · exact fun job hjob => (List.mem_append.mp hjob).elim (hw.clear.jobs job) (hclear job)
  · intro φ hφ
    have hjobs : s.jobsIn { w with jobs := w.jobs ++ jobs } = s.jobsIn w := by
      have hnone : jobs.filter s.settles = [] :=
        List.filter_eq_nil_iff.mpr fun job hjob => by simp [hown job hjob]
      simp [Seal.jobsIn, hnone]
    exact ⟨φ, .stay φ, hφ.congr (by rfl) hjobs⟩

/-- A pending promise stays pending, with more reactions that are not hidden. -/
theorem within_wait (hw : Sealed s w) (hr : s.hidden r = false) {round : Nat}
    {reactions more : List Reaction}
    (h : (w.heap.at_ r).kind = .promise (.pending round reactions))
    (hclear : Refers.clear s w.heap.size more)
    (hown : ∀ reaction ∈ more, s.hidden reaction.derived = false) (round' : Nat) :
    Within s w { w with
      heap := w.heap.modify r (·.withState (.pending round' (reactions ++ more))) } := by
  have hobject := hw.clear_at hr
  refine within_modify hw hr ⟨fun reaction hreaction => ?_, hobject.parent, hobject.properties⟩
    ⟨.inl ?_, fun v fulfils hout => ?_, fun hno => ?_⟩
  · exact (List.mem_append.mp hreaction).elim (hw.reactions_clear hr h reaction)
      (hclear reaction)
  · have hnone : more.filter (fun reaction => s.hidden reaction.derived) = [] :=
      List.filter_eq_nil_iff.mpr fun reaction hreaction => by simp [hown reaction hreaction]
    simp [Seal.reactionsOn, Object.withState, h, hnone]
  · rw [h] at hout
    unfold Outlived settledState at hout
    cases fulfils <;> simp [ObjectKind.isPromise] at hout
  · rw [h] at hno
    cases hno

theorem filter_settles_jobs (reactions : List Reaction) (v : Value) (fulfils : Bool) :
    (reactions.map (·.job v fulfils)).filter s.settles =
      (reactions.filter fun reaction => s.hidden reaction.derived).map (·.job v fulfils) := by
  rw [List.filter_map]
  rfl

/-- The jobs that a promise releases when it settles. -/
theorem jobsIn_promiseSet {round : Nat} {reactions : List Reaction}
    (h : (w.heap.at_ r).kind = .promise (.pending round reactions)) (state : PromiseState)
    (v : Value) (fulfils : Bool) :
    s.jobsIn (w.promiseSet r state (reactions.map (·.job v fulfils))) =
      s.jobsIn w ++ (s.reactionsOn (w.heap.at_ r)).map (·.job v fulfils) := by
  simp only [Seal.jobsIn, World.promiseSet, List.filter_append, filter_settles_jobs,
    Seal.reactionsOn, h]

theorem stands_settled (hr : s.hidden r = false) {round : Nat} {reactions : List Reaction}
    (h : (w.heap.at_ r).kind = .promise (.pending round reactions)) (hlt : r < w.heap.size)
    {v : Value} {fulfils : Bool} {φ : Phase} (hφ : Stands s w φ) :
    ∃ φ', φ.Leads φ' ∧ Stands s
      (w.promiseSet r (settledState v fulfils) (reactions.map (·.job v fulfils))) φ' := by
  have hjobs := jobsIn_promiseSet (s := s) h (settledState v fulfils) v fulfils
  have hself := Heap.at_modify_self w.heap hlt (·.withState (settledState v fulfils))
  have hother : ∀ r', r' ≠ r →
      (w.heap.modify r (·.withState (settledState v fulfils))).at_ r' = w.heap.at_ r' :=
    fun r' hne => Heap.at_modify_ne _ hne _
  have hgone : s.reactionsOn ((w.heap.at_ r).withState (settledState v fulfils)) = [] := by
    cases fulfils <;> rfl
  have hqueue : s.reactionsOn (w.heap.at_ r) = [] →
      s.jobsIn (w.promiseSet r (settledState v fulfils) (reactions.map (·.job v fulfils))) =
        s.jobsIn w := by
    intro hnone
    rw [hjobs, hnone]
    exact List.append_nil _
  have hunwatched : ∀ except, Unwatched s w.heap except →
      Unwatched s (w.heap.modify r (·.withState (settledState v fulfils)))
        (fun r' => except r' ∧ r' ≠ r) := by
    intro except hold r' hr' hne
    by_cases heq : r' = r
    · rw [heq, hself]
      exact hgone
    · rw [hother r' heq]
      exact hold r' hr' fun he => hne ⟨he, heq⟩
  cases φ with
  | spent jobs =>
    refine ⟨_, .stay _, ?_, fun r' hr' _ => hunwatched _ hφ.2 r' hr' fun he => he.1⟩
    exact (hqueue (hφ.2 r hr id)).trans hφ.1
  | released v' fulfils' =>
    have hne : s.watched ≠ r := by
      rintro rfl
      have hout := hφ.2.1
      rw [h] at hout
      cases fulfils' <;> simp [Outlived, settledState, ObjectKind.isPromise] at hout
    refine ⟨_, .stay _, ?_, ?_, fun r' hr' _ => hunwatched _ hφ.2.2 r' hr' fun he => he.1⟩
    · exact (hqueue (hφ.2.2 r hr id)).trans hφ.1
    · exact (congrArg Object.kind (hother _ hne)).symm ▸ hφ.2.1
  | lost =>
    have hne : s.watched ≠ r := by
      rintro rfl
      have hno := hφ.2.1
      rw [h] at hno
      cases hno
    refine ⟨_, .stay _, ?_, ?_, fun r' hr' _ => hunwatched _ hφ.2.2 r' hr' fun he => he.1⟩
    · exact (hqueue (hφ.2.2 r hr id)).trans hφ.1
    · exact (congrArg Object.kind (hother _ hne)).symm ▸ hφ.2.1
  | waiting =>
    obtain ⟨hnone, hwaits, hrest⟩ := hφ
    by_cases heq : s.watched = r
    · refine ⟨_, .release v fulfils, ?_, .inl ?_, fun r' hr' _ => ?_⟩
      · rw [hjobs, hnone, ← heq, hwaits]
        rfl
      · rw [World.promiseSet, heq, hself]
        rfl
      · exact hunwatched _ hrest r' hr' fun he => he.2 (he.1.trans heq)
    · refine ⟨_, .stay _, ?_, (congrArg s.reactionsOn (hother _ heq)).trans hwaits, ?_⟩
      · exact (hqueue (hrest r hr (Ne.symm heq))).trans hnone
      · exact fun r' hr' hne => hunwatched _ hrest r' hr' fun he => hne he.1

/-- A pending promise settles. When the hidden reaction waited on it, its job is in the queue. -/
theorem within_settled (hw : Sealed s w) (hr : s.hidden r = false) {round : Nat}
    {reactions : List Reaction}
    (h : (w.heap.at_ r).kind = .promise (.pending round reactions)) {v : Value}
    (hv : Refers.clear s w.heap.size v) (fulfils : Bool) :
    Within s w (w.promiseSet r (settledState v fulfils) (reactions.map (·.job v fulfils))) := by
  have hlt : r < w.heap.size := by
    refine Nat.lt_of_not_le fun hle => ?_
    simp [Heap.at_, Array.getElem?_eq_none hle] at h
  have hsize : (w.heap.modify r (·.withState (settledState v fulfils))).size = w.heap.size :=
    Heap.size_modify ..
  have hself := Heap.at_modify_self w.heap hlt (·.withState (settledState v fulfils))
  have hother : ∀ r', r' ≠ r →
      (w.heap.modify r (·.withState (settledState v fulfils))).at_ r' = w.heap.at_ r' :=
    fun r' hne => Heap.at_modify_ne _ hne _
  refine ⟨⟨⟨?_, ?_, ?_, ⟨fun r' hr' => ?_, fun job hjob => ?_, ?_, ?_, ?_⟩⟩, ?_, fun r' hr' => ?_,
    rfl, fun φ hφ => ?_⟩, List.prefix_append _ _⟩
  · exact hsize ▸ hw.based
  · exact hsize ▸ hw.bounded
  · exact hsize ▸ hw.watched
  · rw [World.promiseSet, hsize]
    by_cases heq : r' = r
    · have hobject := hw.clear_at hr
      rw [heq, hself]
      exact ⟨by cases fulfils <;> exact hv, hobject.parent, hobject.properties⟩
    · rw [hother r' heq]
      exact hw.clear_at hr'
  · rw [World.promiseSet, hsize]
    obtain hold | hnew := List.mem_append.mp hjob
    · exact hw.clear.jobs job hold
    · obtain ⟨reaction, hreaction, rfl⟩ := List.mem_map.mp hnew
      refine ⟨hv, fun hd => ?_⟩
      obtain ⟨hderived, hfulfilled, hrejected⟩ := hw.reactions_clear hr h reaction hreaction hd
      cases fulfils
      · exact ⟨hderived, hrejected⟩
      · exact ⟨hderived, hfulfilled⟩
  · exact hsize ▸ hw.clear.channels
  · exact hsize ▸ hw.clear.stored
  · exact hsize ▸ hw.clear.kept
  · exact Nat.le_of_eq hsize.symm
  · exact hother r' fun heq => by rw [heq, hr] at hr'; cases hr'
  · exact stands_settled hr h hlt hφ

/-! ## Promises and jobs of guests -/

theorem guards_enqueue {job : Job} (hclear : Refers.clear s n job)
    (hown : s.settles job = false) : Guards s n (enqueue job) := by
  refine ⟨fun w hle hw => ⟨within_enqueue hw ?_ ?_, trivial⟩⟩
  · intro job' hjob
    cases List.mem_singleton.mp hjob
    exact Refers.mono hle hclear
  · intro job' hjob
    cases List.mem_singleton.mp hjob
    exact hown

instance (f : Value) (args : List Value) [hf : Clear s n f] [ha : Clear s n args] :
    Guards s n (enqueue (.invoke f args)) := guards_enqueue ⟨hf.clear, ha.clear⟩ rfl

instance (turns : Nat) (promise : Ref) (value : Value) (fulfils : Bool)
    [hp : Visible s n promise] [hv : Clear s n value] :
    Guards s n (enqueue (.settleAfter turns promise value fulfils)) :=
  guards_enqueue ⟨hp, hv.clear⟩ rfl

instance : Guards s n (enqueue .spin) := guards_enqueue trivial rfl

instance : Yields s n makePromise := by
  unfold makePromise
  infer_instance

instance (r : Ref) [hr : Visible s n r] : Guards s n (promiseState? r) := by
  refine ⟨fun w _ hw => ?_⟩
  rw [run_promiseState?]
  refine ⟨.refl hw, fun state hstate => ?_⟩
  have hkind := (hw.clear_at hr.shown).kind
  rw [state?_eq_some.mp hstate] at hkind
  exact hkind

/-- What is done with the state of a promise. A pending promise has the hidden reactions on it that
its state shows. -/
theorem ensures_state {α : Type} {Q : Nat → α → Prop} {f : Option PromiseState → Machine α}
    (hr : Visible s n r)
    (hpending : ∀ w, n ≤ w.heap.size → Sealed s w → ∀ round reactions,
      (w.heap.at_ r).kind = .promise (.pending round reactions) →
      Within s w (run w (f (some (.pending round reactions)))).2 ∧
        Ended s Q (run w (f (some (.pending round reactions)))))
    (hother : ∀ k state, n ≤ k → Refers.clear s k state →
      (∀ round reactions, state ≠ some (.pending round reactions)) → Ensures s k Q (f state)) :
    Ensures s n Q (promiseState? r >>= f) := by
  intro w hle hw
  rw [run_bind_ok (run_promiseState? w r)]
  by_cases h : ∃ round reactions, (w.heap.at_ r).state? = some (.pending round reactions)
  · obtain ⟨round, reactions, h⟩ := h
    rw [h]
    exact hpending w hle hw round reactions (state?_eq_some.mp h)
  · refine hother w.heap.size _ hle (fun state hstate => ?_) (fun round reactions hs => ?_) w
      (Nat.le_refl _) hw
    · have hkind := (hw.clear_at hr.shown).kind
      rw [state?_eq_some.mp hstate] at hkind
      exact hkind
    · exact h ⟨round, reactions, hs⟩

section
variable {v : Value} [hr : Visible s n r] [hv : Clear s n v]

instance (fulfils : Bool) : Guards s n (settle r v fulfils) := by
  refine ⟨fun w hle hw => ?_⟩
  by_cases h : ∃ round reactions, (w.heap.at_ r).kind = .promise (.pending round reactions)
  · obtain ⟨round, reactions, h⟩ := h
    rw [run_settle h]
    exact ⟨within_settled hw hr.shown h (Refers.mono hle hv.clear) fulfils, trivial⟩
  · rw [run_settle_other fun round reactions hk => h ⟨round, reactions, hk⟩]
    exact ⟨.refl hw, trivial⟩

instance : Guards s n (reject r v) := by
  unfold reject
  infer_instance

/-- A pending promise is bound to a value in a new round. -/
theorem guards_bind (method : Value) [hm : Clear s n method] : Guards s n (do
    match ← promiseState? r with
    | some (.pending round reactions) =>
      setPromise r (.pending (round + 1) reactions)
      enqueue (.adopt r (round + 1) v method)
    | _ => pure ()) := by
  refine ⟨ensures_state hr (fun w hle hw round reactions h => ?_) fun k state hle _ hs => ?_⟩
  · dsimp only
    rw [run_bind_ok (run_setPromise w r _), run_enqueue]
    have hnone : Refers.clear s w.heap.size ([] : List Reaction) := fun _ hmem =>
      absurd hmem List.not_mem_nil
    have hin := within_wait hw hr.shown h hnone (fun _ hmem => absurd hmem List.not_mem_nil)
      (round + 1)
    rw [List.append_nil] at hin
    have hle' := Nat.le_trans hle hin.size
    refine ⟨hin.trans (within_enqueue hin.is ?_ fun job hjob => ?_), trivial⟩
    · intro job hjob
      cases List.mem_singleton.mp hjob
      exact ⟨hr.mono hle', Refers.mono hle' hv.clear, Refers.mono hle' hm.clear⟩
    · cases List.mem_singleton.mp hjob
      rfl
  · split
    · exact absurd rfl (hs _ _)
    · exact .pure fun _ _ => trivial

instance : Guards s n (resolve r v) := by
  unfold resolve
  split
  · refine Guards.andThen inferInstance fun k hle outcome houtcome => ?_
    cases outcome with
    | error e =>
      dsimp only
      infer_instance
    | ok method =>
      dsimp only
      refine Guards.andThen inferInstance fun k' hle' h _ => ?_
      split
      · exact guards_bind method
      · infer_instance
  · infer_instance

instance (round : Nat) (fulfils : Bool) : Guards s n (settleInRound r round fulfils v) := by
  unfold settleInRound
  refine Guards.andThen inferInstance fun k hle state _ => ?_
  split <;> infer_instance

instance {onFulfilled onRejected : Value} [hf : Clear s n onFulfilled]
    [hj : Clear s n onRejected] : Yields s n (addReaction r onFulfilled onRejected) := by
  unfold addReaction
  dsimp only
  refine Yields.andThenAt inferInstance fun k hle derived hd => ?_
  have hle' : ∀ {m}, k ≤ m → n ≤ m := Nat.le_trans hle
  refine ⟨ensures_state (hr.mono hle) (fun w hk hw round reactions h => ?_)
    fun m state hm hstate hs => ?_⟩
  · dsimp only
    have hle'' := hle' hk
    rw [run_bind_ok (run_setPromise w r _), run_pure]
    refine ⟨within_wait hw hr.shown h ?_ ?_ round, ?_⟩
    · intro reaction hreaction
      cases List.mem_singleton.mp hreaction
      exact fun _ => ⟨hd.mono hk, Refers.mono hle'' hf.clear, Refers.mono hle'' hj.clear⟩
    · intro reaction hreaction
      cases List.mem_singleton.mp hreaction
      exact hd.shown
    · exact hd.mono (Nat.le_trans hk (Nat.le_of_eq (Heap.size_modify ..).symm))
  · have hderived := hd.mono hm
    have hjob : ∀ {value : Value} (fulfils : Bool), Refers.clear s m value →
        Ensures s m (Visible s) (do
          enqueue ((⟨onFulfilled, onRejected, derived⟩ : Reaction).job value fulfils)
          pure derived) := by
      intro value fulfils hvalue
      have hhandler : Refers.clear s m (if fulfils then onFulfilled else onRejected) := by
        split
        · exact Refers.mono (hle' hm) hf.clear
        · exact Refers.mono (hle' hm) hj.clear
      have hclear : Refers.clear s m
          ((⟨onFulfilled, onRejected, derived⟩ : Reaction).job value fulfils) :=
        ⟨hvalue, fun _ => ⟨hderived, hhandler⟩⟩
      exact (Yields.andThen (guards_enqueue hclear hd.shown) inferInstance).ensures
    split
    · exact absurd rfl (hs _ _)
    · exact hjob true (hstate _ rfl)
    · exact hjob false (hstate _ rfl)
    · exact Yields.ensures

end

/-! ### Jobs -/

/-- Every job but those that settle hidden promises stays within. -/
theorem guards_performJob {call : Call} [Contained s call] {job : Job}
    (hclear : Refers.clear s n job) (hown : s.settles job = false) :
    Guards s n (performJob call job) := by
  cases job with
  | react handler argument fulfils derived =>
    have hargument : Clear s n argument := ⟨hclear.1⟩
    have hderived : Visible s n derived := (hclear.2 hown).1
    have hhandler : Clear s n handler := ⟨(hclear.2 hown).2⟩
    unfold performJob
    refine Guards.andThen inferInstance fun k hle h hh => ?_
    split
    · refine Guards.andThen inferInstance fun k' hle' result hr => ?_
      cases result <;>
      · dsimp only
        infer_instance
    · infer_instance
  | adopt promise round thenable method =>
    have hpromise : Visible s n promise := hclear.1
    have hthenable : Clear s n thenable := ⟨hclear.2.1⟩
    have hmethod : Clear s n method := ⟨hclear.2.2⟩
    unfold performJob
    refine Guards.andThenAt inferInstance fun k hle fulfil _ => ?_
    refine Guards.andThenAt inferInstance fun k' hle' refuse _ => ?_
    refine Guards.andThen inferInstance fun k'' hle'' result hr => ?_
    cases result <;>
    · dsimp only
      infer_instance
  | invoke f args =>
    have hf : Clear s n f := ⟨hclear.1⟩
    have hargs : Clear s n args := ⟨hclear.2⟩
    unfold performJob
    infer_instance
  | settleAfter turns promise value fulfils =>
    have hpromise : Visible s n promise := hclear.1
    have hvalue : Clear s n value := ⟨hclear.2⟩
    cases turns <;>
    · unfold performJob
      infer_instance
  | spin =>
    unfold performJob
    infer_instance

end GuestLint.Guest
