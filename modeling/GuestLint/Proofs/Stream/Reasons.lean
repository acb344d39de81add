import GuestLint.Proofs.Stream.Account

/-!
# What error listeners are told

A channel keeps one reason. Each write that fails before the end replaces it, also when the channel
is errored already, and an error listener is told the reason that the channel has when it is called.
That happens once: at the first failure or, for a listener that comes later, on its registration.

* `Channel.Records.after`: of all failures a channel keeps the newest.
* `Scene.Remembers.step`: an error call tells the newest reason.
* `Scene.Agreed.step`: while the channel is not used during a delivery, an error call tells the
  first reason, unless it is that of a listener that comes after another one.
* `Scene.told_first_iff`: when all error listeners are told the first reason.
-/
namespace GuestLint.Stream

variable {V L : Type}

/-! ## Failures -/

namespace Use

/-- Why the write of a failing acknowledgement has failed. -/
def reason? : Use V L → Option V
  | .acknowledge reason => reason
  | _ => none

def ends : Use V L → Bool
  | .finish => true
  | _ => false

end Use

/-- The reasons of the writes that fail before the channel ends, in order. -/
def failures (us : List (Use V L)) : List V :=
  (us.takeWhile fun u => !u.ends).filterMap Use.reason?

theorem failures_append (us vs : List (Use V L)) :
    failures (us ++ vs) = failures us ++ if us.any Use.ends then [] else failures vs := by
  induction us with
  | nil => rfl
  | cons u us ih =>
    cases hu : u.ends with
    | true => simp [failures, hu]
    | false =>
      unfold failures at ih
      cases hr : u.reason? <;> simp [failures, hu, hr, ih]

theorem failures_snoc (us : List (Use V L)) (u : Use V L) :
    failures (us ++ [u]) = failures us ++ if us.any Use.ends then [] else u.reason?.toList := by
  have hone : failures [u] = u.reason?.toList := by
    cases u with
    | acknowledge reason => cases reason <;> rfl
    | _ => rfl
  rw [failures_append, hone]

/-- What comes later does not change which failure was the first. -/
theorem failures_head?_append {us : List (Use V L)} (h : failures us ≠ []) (vs : List (Use V L)) :
    (failures (us ++ vs)).head? = (failures us).head? := by
  rw [failures_append, List.head?_append_of_ne_nil _ h]

/-! ## What a channel keeps -/

theorem Ledger.unfired_eq_nil {start : Nat} {fs : List Bool} (h : ∀ fired ∈ fs, fired = true) :
    unfired start fs = [] := by
  rw [List.eq_replicate_of_mem h]
  exact Channel.unfired_replicate _ _

theorem Ledger.unfired_snoc (start : Nat) (fs : List Bool) :
    unfired start (fs ++ [false]) = unfired start fs ++ [start + fs.length] := by
  induction fs generalizing start with
  | nil => rfl
  | cons fired fs ih =>
    have hrest : start + 1 + fs.length = start + (fs.length + 1) := by omega
    cases fired <;> simp [unfired, ih, hrest]

namespace Use

variable (c : Channel V L) (u : Use V L)

theorem after_ended : (u.after c).ledger.ended = (c.ledger.ended || u.ends) := by
  cases u with
  | push chunk => exact (Bool.or_false _).symm
  | listen event listener =>
    cases event <;> exact (Ledger.deliver_frame _).2.1.trans (Bool.or_false _).symm
  | finish => exact (Ledger.deliver_frame _).2.1.trans (Bool.or_true _).symm
  | acknowledge reason =>
    refine (Ledger.deliver_frame _).2.1.trans (Eq.trans ?_ (Bool.or_false _).symm)
    cases reason with
    | none => rfl
    | some e =>
      simp only [change, Channel.fail_eq]
      split <;> rfl

/-- A failing write makes the channel errored and brings its reason, unless the channel has
ended. -/
theorem after_failed :
    (u.after c).ledger.errored = (c.ledger.errored || (!c.ledger.ended && u.reason?.isSome)) ∧
      (u.after c).reason = if c.ledger.ended then c.reason else u.reason?.or c.reason := by
  have hnone : ∀ c' : Channel V L, c'.ledger.errored = c.ledger.errored → c'.reason = c.reason →
      c'.marked.ledger.errored = (c.ledger.errored || (!c.ledger.ended && false)) ∧
        c'.marked.reason = if c.ledger.ended then c.reason else Option.or none c.reason := by
    intro c' herr hreason
    refine ⟨(Ledger.deliver_frame _).2.2.trans (by simp [herr]), ?_⟩
    exact Eq.trans hreason (by simp)
  cases u with
  | push chunk => simp [after, Channel.push, Ledger.push, reason?]
  | listen event listener => cases event <;> exact hnone _ rfl rfl
  | finish => exact hnone _ rfl rfl
  | acknowledge reason =>
    cases reason with
    | none => exact hnone _ rfl rfl
    | some e =>
      have herr := (Ledger.deliver_frame (c.fail e).ledger).2.2
      simp only [after, change, Channel.marked, Channel.fail_eq] at herr ⊢
      rw [herr]
      cases c.ledger.ended <;> simp [reason?]

/-- While a channel is errored all its error listeners have been called. -/
theorem after_fired
    (h : c.ledger.errored = true → ∀ fired ∈ c.ledger.errorFired, fired = true)
    (herr : (u.after c).ledger.errored = true) :
    ∀ fired ∈ (u.after c).ledger.errorFired, fired = true := by
  cases u with
  | push chunk => exact h herr
  | _ =>
    have herr' := (Ledger.deliver_frame _).2.2.symm.trans herr
    simp only [after, Channel.marked, Ledger.deliver_errorFired, herr', if_true]
    simp

/-- Only the registration of an error listener changes who is still to be called. -/
theorem change_errorFired {u : Use V L} (hu : ∀ listener, u ≠ .listen .error listener) :
    (u.change c).ledger.errorFired = c.ledger.errorFired := by
  cases u with
  | listen event listener =>
    cases event with
    | error => exact absurd rfl (hu listener)
    | _ => rfl
  | acknowledge reason =>
    cases reason with
    | none => rfl
    | some e =>
      simp only [change, Channel.fail_eq]
      split <;> rfl
  | _ => rfl

end Use

namespace Channel

/-- What a channel keeps of its uses: whether it has ended, whether a write has failed, and the
reason of the newest failure. -/
structure Records (c : Channel V L) (us : List (Use V L)) : Prop where
  ended : c.ledger.ended = us.any Use.ends
  errored : c.ledger.errored = true ↔ failures us ≠ []
  reason : c.reason = (failures us).getLast?
  fired : c.ledger.errored = true → ∀ fired ∈ c.ledger.errorFired, fired = true

theorem records_new : Records ({} : Channel V L) [] where
  ended := rfl
  errored := by simp [failures]
  reason := rfl
  fired := by simp

namespace Records

variable {c : Channel V L} {us : List (Use V L)}

theorem after (h : c.Records us) (u : Use V L) : (u.after c).Records (us ++ [u]) := by
  obtain ⟨herrored, hreason⟩ := u.after_failed c
  refine ⟨?_, ?_, ?_, Use.after_fired c u h.fired⟩
  · simp [Use.after_ended, h.ended]
  · rw [herrored, failures_snoc, Bool.or_eq_true, h.errored, h.ended]
    cases us.any Use.ends <;> cases u.reason? <;> simp
  · rw [hreason, failures_snoc, h.ended, h.reason]
    cases us.any Use.ends <;> cases u.reason? <;> simp

/-- A call of an error listener is planned at the first failure, or for a listener that is new. -/
theorem plan_error (h : c.Records us) {u : Use V L} {l : Nat} (hl : .error l ∈ u.plan c) :
    failures (us ++ [u]) ≠ [] ∧ ((∃ listener, u = .listen .error listener) ∨ failures us = []) := by
  have hdue : .error l ∈ (u.change c).due := by
    cases u with
    | push chunk => cases hl
    | _ => exact hl
  have herr := Ledger.mem_deliver_error hdue
  refine ⟨(h.after u).errored.mp (Use.after_errored herr), ?_⟩
  by_contra hnot
  obtain ⟨hu, hfailed⟩ := not_or.mp hnot
  have hfired := h.fired (h.errored.mpr hfailed)
  rw [← Use.change_errorFired c (not_exists.mp hu)] at hfired
  simp [due, Ledger.deliver, herr, Ledger.unfired_eq_nil hfired] at hdue

/-- An errored channel calls a new error listener, and nobody else. -/
theorem plan_listen (h : c.Records us) (hfailed : failures us ≠ []) (listener : L) :
    (Use.listen .error listener).plan c = [.error c.ledger.errorFired.length] := by
  have herr := h.errored.mpr hfailed
  simp [Use.plan, Use.change, due, add, Ledger.addError, Ledger.deliver, herr,
    Ledger.unfired_snoc, Ledger.unfired_eq_nil (h.fired herr)]

end Records

theorem notice?_error {c : Channel V L} {d : Delivery} {listener : L} {reason : Option V}
    (h : c.notice? d = some (listener, .error reason)) :
    (∃ l, d = .error l) ∧ reason = c.reason := by
  obtain ⟨l, rfl⟩ := (notice?_isError h).mp rfl
  cases hl : c.errorListeners[l]? <;> simp [notice?, hl] at h
  exact ⟨⟨l, rfl⟩, h.2.symm⟩

end Channel

/-! ## What a scene tells -/

namespace Scene

variable {s : Scene V L} {us : List (Use V L)}

/-- What is made or left after a turn was planned by it, or was left before. -/
theorem mem_plans_or_waiting {t : Turn V L} {d : Delivery}
    (h : d ∈ (s.step t).2.toList.map (·.delivery) ∨ d ∈ (s.step t).1.waiting.flatten) :
    d ∈ s.plans t ∨ d ∈ s.waiting.flatten := by
  have haccount := s.step_account t d
  simp only [← List.count_pos_iff] at h ⊢
  omega

/-- A listener that is told of an error is told the reason that the channel has, by a call that was
planned for an error listener. -/
theorem step_error {t : Turn V L} {call : Made V L} (hc : call ∈ (s.step t).2) {listener : L}
    {reason : Option V} (htold : call.told = some (listener, .error reason)) :
    reason = (s.step t).1.channel.reason ∧
      ∃ l, .error l ∈ s.plans t ∨ .error l ∈ s.waiting.flatten := by
  obtain ⟨⟨l, hl⟩, hreason⟩ := Channel.notice?_error ((step_told hc).symm.trans htold)
  have hmade : .error l ∈ (s.step t).2.toList.map (·.delivery) :=
    List.mem_map.mpr ⟨call, Option.mem_toList.mpr hc, hl⟩
  exact ⟨hreason, l, mem_plans_or_waiting (.inl hmade)⟩

/-- The channel of a scene records its uses, and no error call is left before the first failure. -/
structure Remembers (s : Scene V L) (us : List (Use V L)) : Prop where
  channel : s.channel.Records us
  left : ∀ l, .error l ∈ s.waiting.flatten → failures us ≠ []

theorem remembers_new : Remembers ({} : Scene V L) [] := ⟨Channel.records_new, by simp⟩

theorem Remembers.records_step (h : s.Remembers us) (t : Turn V L) :
    (s.step t).1.channel.Records (us ++ t.use?.toList) := by
  rw [step_channel]
  cases t with
  | use u => exact h.channel.after u
  | _ => simpa [Turn.use?] using h.channel

/-- An error call that a turn makes or leaves comes after a failure. -/
theorem Remembers.failed_step (h : s.Remembers us) {t : Turn V L} {l : Nat}
    (hl : .error l ∈ s.plans t ∨ .error l ∈ s.waiting.flatten) :
    failures (us ++ t.use?.toList) ≠ [] := by
  rcases hl with hplan | hleft
  · cases t with
    | use u => exact (h.channel.plan_error hplan).1
    | _ => cases hplan
  · rw [failures_append]
    exact List.append_ne_nil_of_left_ne_nil (h.left l hleft) _

/-- An error call tells the newest reason. -/
theorem Remembers.step (h : s.Remembers us) (t : Turn V L) :
    (s.step t).1.Remembers (us ++ t.use?.toList) ∧
      ∀ call ∈ (s.step t).2, ∀ listener reason, call.told = some (listener, .error reason) →
        failures (us ++ t.use?.toList) ≠ [] ∧
          reason = (failures (us ++ t.use?.toList)).getLast? := by
  have hchannel := h.records_step t
  refine ⟨⟨hchannel, fun l hl => h.failed_step (mem_plans_or_waiting (.inr hl))⟩, ?_⟩
  intro call hc listener reason htold
  obtain ⟨hreason, l, hl⟩ := step_error hc htold
  exact ⟨h.failed_step hl, hreason.trans hchannel.reason⟩

theorem Remembers.after (h : s.Remembers us) (ts : List (Turn V L)) :
    (s.after ts).Remembers (us ++ ts.filterMap Turn.use?) := by
  induction ts generalizing s us with
  | nil => simpa [Scene.after] using h
  | cons t ts ih =>
    have hrest := ih (h.step t).1
    rw [List.append_assoc] at hrest
    cases ht : t.use? <;> simpa [Scene.after, ht] using hrest

/-- A listener that is registered after a failure is told the newest reason at once. -/
theorem Remembers.listen_told (h : s.Remembers us) (hin : s.channel.InStep)
    (hfailed : failures us ≠ []) (listener : L) :
    ∃ call ∈ (s.step (.use (.listen .error listener))).2,
      call.told = some (listener, .error (failures us).getLast?) := by
  have hplan := h.channel.plan_listen hfailed listener
  have htold : ((Use.listen .error listener).after s.channel).notice?
      (.error s.channel.ledger.errorFired.length) =
        some (listener, .error (failures us).getLast?) := by
    simp [Channel.notice?, Use.after, Use.change, Channel.marked, Channel.add, hin.error,
      h.channel.reason]
  have hstep : (s.step (.use (.listen .error listener))).2 =
      some ⟨.error s.channel.ledger.errorFired.length,
        some (listener, .error (failures us).getLast?)⟩ := by
    simp only [Scene.step, Scene.begin, hplan, htold]
  exact ⟨_, hstep, rfl⟩

/-! ### Scenes without re-entrance -/

/-- Whenever the channel is used, no delivery under way has a call left. -/
def Apart (s : Scene V L) : List (Turn V L) → Prop
  | [] => True
  | t :: ts => (∀ u, t = .use u → s.waiting.flatten = []) ∧ (s.step t).1.Apart ts

/-- While an error call is left, the reason that the channel keeps is the first one. -/
structure Agreed (s : Scene V L) (us : List (Use V L)) : Prop extends s.Remembers us where
  first : ∀ l, .error l ∈ s.waiting.flatten → (failures us).getLast? = (failures us).head?

theorem agreed_new : Agreed ({} : Scene V L) [] := ⟨remembers_new, by simp⟩

/-- An error call that a turn makes or leaves finds the first reason, unless a listener is new and
another reason has come before it. -/
theorem Agreed.first_step (h : s.Agreed us) {t : Turn V L}
    (hapart : ∀ u, t = .use u → s.waiting.flatten = [])
    (hnew : ∀ listener, t = .use (.listen .error listener) →
      (failures us).getLast? = (failures us).head?)
    {l : Nat} (hl : .error l ∈ s.plans t ∨ .error l ∈ s.waiting.flatten) :
    (failures (us ++ t.use?.toList)).getLast? = (failures (us ++ t.use?.toList)).head? := by
  rcases hl with hplan | hleft
  · cases t with
    | use u =>
      show (failures (us ++ [u])).getLast? = (failures (us ++ [u])).head?
      rw [failures_snoc]
      rcases (h.channel.plan_error hplan).2 with ⟨listener, rfl⟩ | hnone
      · simpa [Use.reason?] using hnew listener rfl
      · -- the failure of this use is the first one, and the only one
        rw [hnone, List.nil_append]
        cases us.any Use.ends <;> cases u.reason? <;> rfl
    | _ => cases hplan
  · cases t with
    | use u => rw [hapart u rfl] at hleft; cases hleft
    | _ => simpa [Turn.use?] using h.first l hleft

/-- An error call tells the first reason. -/
theorem Agreed.step (h : s.Agreed us) {t : Turn V L}
    (hapart : ∀ u, t = .use u → s.waiting.flatten = [])
    (hnew : ∀ listener, t = .use (.listen .error listener) →
      (failures us).getLast? = (failures us).head?) :
    (s.step t).1.Agreed (us ++ t.use?.toList) ∧
      ∀ call ∈ (s.step t).2, ∀ listener reason, call.told = some (listener, .error reason) →
        failures (us ++ t.use?.toList) ≠ [] ∧
          reason = (failures (us ++ t.use?.toList)).head? := by
  obtain ⟨hremembers, htold⟩ := h.toRemembers.step t
  refine ⟨⟨hremembers, fun l hl => h.first_step hapart hnew (mem_plans_or_waiting (.inr hl))⟩, ?_⟩
  intro call hc listener reason hcall
  obtain ⟨hfailed, rfl⟩ := htold call hc listener reason hcall
  obtain ⟨-, l, hl⟩ := step_error hc hcall
  exact ⟨hfailed, h.first_step hapart hnew hl⟩

theorem Agreed.calls (h : s.Agreed us) {ts : List (Turn V L)} (hapart : s.Apart ts)
    (hnew : ∀ before listener later,
      ts.filterMap Turn.use? = before ++ .listen .error listener :: later →
        (failures (us ++ before)).getLast? = (failures (us ++ before)).head?) :
    ∀ call ∈ s.calls ts, ∀ listener reason, call.told = some (listener, .error reason) →
      reason = (failures (us ++ ts.filterMap Turn.use?)).head? := by
  induction ts generalizing s us with
  | nil => simp [Scene.calls]
  | cons t ts ih =>
    have huses : us ++ (t :: ts).filterMap Turn.use? =
        us ++ t.use?.toList ++ ts.filterMap Turn.use? := by
      cases ht : t.use? <;> simp [ht]
    obtain ⟨hstep, htold⟩ := h.step hapart.1 fun listener ht => by
      simpa using hnew [] listener (ts.filterMap Turn.use?) (by rw [ht]; rfl)
    intro call hc listener reason hcall
    rw [huses]
    rcases List.mem_append.mp hc with hc | hc
    · obtain ⟨hfailed, rfl⟩ := htold call (Option.mem_toList.mp hc) listener reason hcall
      exact (failures_head?_append hfailed _).symm
    · refine ih hstep hapart.2 (fun before listener later hts => ?_) call hc listener reason hcall
      rw [List.append_assoc]
      refine hnew (t.use?.toList ++ before) listener later ?_
      cases ht : t.use? <;> simp [ht, hts]

/-- **First reason.** While the channel is not used during a delivery, all error listeners are told
the reason of the first failure if and only if no error listener is registered when the newest
failure has brought another reason than the first. -/
theorem told_first_iff {ts : List (Turn V L)} (hapart : ({} : Scene V L).Apart ts) :
    (∀ call ∈ ({} : Scene V L).calls ts, ∀ listener reason,
        call.told = some (listener, .error reason) →
          reason = (failures (ts.filterMap Turn.use?)).head?) ↔
      ∀ before listener later,
        ts.filterMap Turn.use? = before ++ .listen .error listener :: later →
          (failures before).getLast? = (failures before).head? := by
  constructor
  · intro hall before listener later huses
    by_cases hfailed : failures before = []
    · rw [hfailed]
      rfl
    -- the turn that registers the listener
    obtain ⟨ts₁, rest, rfl, hbefore, hrest⟩ := List.filterMap_eq_append_iff.mp huses
    obtain ⟨waits, t, ts₂, rfl, hwaits, ht, -⟩ := List.filterMap_eq_cons_iff.mp hrest
    obtain rfl : t = .use (.listen .error listener) := by
      cases t with
      | use u => exact congrArg Turn.use (Option.some.inj ht)
      | _ => cases ht
    have hnow : (ts₁ ++ waits).filterMap Turn.use? = before := by
      rw [List.filterMap_append, hbefore, List.filterMap_eq_nil_iff.mpr hwaits, List.append_nil]
    have hremembers := remembers_new.after (V := V) (L := L) (ts₁ ++ waits)
    rw [hnow, List.nil_append] at hremembers
    have hin := (sound_new.after (V := V) (L := L) (ts₁ ++ waits)).inStep
    obtain ⟨call, hc, htold⟩ := hremembers.listen_told hin hfailed listener
    have hcall : call ∈ ({} : Scene V L).calls
        (ts₁ ++ (waits ++ .use (.listen .error listener) :: ts₂)) := by
      rw [← List.append_assoc, calls_append]
      exact List.mem_append_right _ (List.mem_append_left _ (Option.mem_toList.mpr hc))
    rw [hall call hcall listener _ htold, huses]
    exact failures_head?_append hfailed _
  · intro hnew
    exact agreed_new.calls hapart (by simpa using hnew)

end Scene
end GuestLint.Stream
