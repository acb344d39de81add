import GuestLint.Proofs.Stream.Scene

/-!
# The order in which a listener gets its chunks

A plan gives each data listener its chunks in ascending order, and a later plan begins where an
earlier one ended. What can go wrong is the nesting: a use that is made while a delivery waits
plans newer chunks, and their calls are made before the ones that the waiting delivery has left.

* `agenda`: the chunks that the deliveries under way have left for a listener, in the order in
  which they will be given when every call returns.
* `step_agenda`: a turn puts the chunks that it plans in front of the agenda.
* `Aligned.given_ascend`: as long as nothing is put in front of a non-empty agenda, the order is
  kept.
* `Aligned.overtaken_disorder`: otherwise it is lost as soon as all calls have returned.
* `Sound.calls_tell`: a call hands over the chunk that its index stands for.
-/
namespace GuestLint.Stream

variable {V L : Type}

/-! ## What one use plans for a listener -/

namespace Channel

/-- The first chunk that a data listener has not been given. -/
def cursor (c : Channel V L) (l : Nat) : Nat := c.ledger.cursors.getD l 0

/-- No data listener is ahead of the chunks. -/
def Bounded (c : Channel V L) : Prop := ∀ k ∈ c.ledger.cursors, k ≤ c.ledger.chunks

theorem bounded_new : Bounded ({} : Channel V L) := by simp [Bounded]

theorem marked_bounded {c : Channel V L} (h : c.Bounded) : c.marked.Bounded := by
  intro k hk
  simp only [marked, Ledger.deliver_cursors, (Ledger.deliver_frame _).1] at hk ⊢
  split at hk
  · exact h k hk
  · obtain ⟨-, -, rfl⟩ := List.mem_map.mp hk
    exact Nat.le_refl _

/-- What is due to a listener starts at its cursor and ends at the cursor that it gets. -/
theorem chunksFor_due {c : Channel V L} (h : c.Bounded) (l : Nat) :
    c.cursor l ≤ c.marked.cursor l ∧
      chunksFor l c.due = List.range' (c.cursor l) (c.marked.cursor l - c.cursor l) := by
  have hacc := Ledger.data_account h l
  have hle : c.cursor l ≤ c.marked.cursor l := by
    have hlen := congrArg List.length hacc
    rw [List.length_append, List.length_range, List.length_range] at hlen
    exact Nat.le.intro hlen
  refine ⟨hle, List.append_cancel_left (hacc.trans ?_)⟩
  exact (Ledger.range_append_range' hle).symm

end Channel

namespace Use

variable {c : Channel V L}

theorem change_bounded (h : c.Bounded) (u : Use V L) : (u.change c).Bounded := by
  cases u with
  | push chunk => exact fun k hk => Nat.le_succ_of_le (h k hk)
  | listen event listener =>
    cases event with
    | data =>
      intro k hk
      rcases List.mem_append.mp hk with hk | hk
      · exact h k hk
      · rw [List.mem_singleton.mp hk]
        exact Nat.zero_le _
    | error => exact h
    | «end» => exact h
  | finish => exact h
  | acknowledge reason =>
    cases reason with
    | none => exact h
    | some e =>
      simp only [change, Channel.fail_eq]
      split <;> exact h

/-- A use moves no cursor before it delivers; a new listener starts at the first chunk. -/
theorem change_cursor (u : Use V L) (l : Nat) : (u.change c).cursor l = c.cursor l := by
  cases u with
  | listen event listener =>
    cases event with
    | data => exact Ledger.History.getD_append_default _ _ _
    | error => rfl
    | «end» => rfl
  | acknowledge reason =>
    cases reason with
    | none => rfl
    | some e =>
      simp only [change, Channel.fail_eq]
      split <;> rfl
  | _ => rfl

theorem after_bounded (h : c.Bounded) (u : Use V L) : (u.after c).Bounded := by
  cases u with
  | push chunk => exact change_bounded h (.push chunk)
  | _ => exact Channel.marked_bounded (change_bounded h _)

/-- A use plans for a listener the chunks from its cursor on, and moves the cursor behind them. -/
theorem chunksFor_plan (h : c.Bounded) (u : Use V L) (l : Nat) :
    c.cursor l ≤ (u.after c).cursor l ∧
      chunksFor l (u.plan c) = List.range' (c.cursor l) ((u.after c).cursor l - c.cursor l) := by
  have hdue := Channel.chunksFor_due (change_bounded h u) l
  rw [change_cursor] at hdue
  cases u with
  | push chunk =>
    have hcursor : ((Use.push chunk).after c).cursor l = c.cursor l := rfl
    simp [plan, hcursor, chunksFor]
  | _ => exact hdue

end Use

/-! ## The agenda of a listener -/

namespace Scene

/-- The chunks that the deliveries under way have left for a data listener, innermost first. -/
def agenda (s : Scene V L) (l : Nat) : List Nat := chunksFor l s.waiting.flatten

/-- The chunks that a turn sets out to give a data listener. -/
def adds (s : Scene V L) (l : Nat) : Turn V L → List Nat
  | .use u => chunksFor l (u.plan s.channel)
  | _ => []

/-- The chunks that a data listener is called with on the way, in order. -/
def given (s : Scene V L) (l : Nat) (ts : List (Turn V L)) : List Nat :=
  chunksFor l ((s.calls ts).map (·.delivery))

/-- The chunks that a data listener is called with in one turn: one at most. -/
def givenNow (s : Scene V L) (l : Nat) (t : Turn V L) : List Nat :=
  chunksFor l ((s.step t).2.toList.map (·.delivery))

theorem given_cons (s : Scene V L) (l : Nat) (t : Turn V L) (ts : List (Turn V L)) :
    s.given l (t :: ts) = s.givenNow l t ++ (s.step t).1.given l ts := by
  simp only [given, givenNow, calls, List.map_append, chunksFor_append]

theorem begin_agenda (s : Scene V L) (l : Nat) (plan : List Delivery) :
    chunksFor l ((s.begin plan).2.toList.map (·.delivery)) ++ (s.begin plan).1.agenda l =
      chunksFor l plan ++ s.agenda l := by
  cases plan with
  | nil => rfl
  | cons d rest =>
    simp only [begin, agenda, Option.toList_some, List.map_cons, List.map_nil, List.flatten_cons,
      chunksFor_append, ← List.append_assoc]
    rw [← chunksFor_append]
    rfl

/-- A turn takes chunks off an agenda: a call throws, and its delivery is given up. -/
def Drops (s : Scene V L) (l : Nat) (t : Turn V L) : Prop :=
  t = .reply false ∧ chunksFor l (s.waiting.headD []) ≠ []

/-- **Agenda.** A turn puts the chunks that it plans in front of the agenda, and then takes the
first call off it. -/
theorem step_agenda (s : Scene V L) (l : Nat) {t : Turn V L} (ht : ¬ s.Drops l t) :
    s.givenNow l t ++ (s.step t).1.agenda l = s.adds l t ++ s.agenda l := by
  cases t with
  | use u => exact begin_agenda { s with channel := u.after s.channel } l _
  | wait => rfl
  | reply returned =>
    unfold givenNow step
    cases hw : s.waiting with
    | nil => rfl
    | cons plan rest =>
      have hplan : chunksFor l (if returned then plan else []) = chunksFor l plan := by
        cases returned with
        | true => rfl
        | false =>
          have hnone : chunksFor l plan = [] :=
            Classical.not_not.mp fun hne => ht ⟨rfl, by rw [hw]; exact hne⟩
          exact hnone.symm
      refine (begin_agenda { s with waiting := rest } l _).trans ?_
      simp [hplan, agenda, adds, hw, chunksFor_append]

/-- A call that throws takes the rest of its delivery off the agenda. -/
theorem step_agenda_throw (s : Scene V L) (l : Nat) :
    s.givenNow l (.reply false) = [] ∧
      (s.step (.reply false)).1.agenda l <:+ s.agenda l := by
  unfold givenNow step
  cases hw : s.waiting with
  | nil => exact ⟨rfl, List.suffix_refl _⟩
  | cons plan rest =>
    refine ⟨rfl, ?_⟩
    simp only [agenda, hw, List.flatten_cons, chunksFor_append]
    exact List.suffix_append _ _

/-! ### What is on the agenda is older than what will be planned -/

structure Aligned (s : Scene V L) : Prop where
  bounded : s.channel.Bounded
  below : ∀ l, ∀ k ∈ s.agenda l, k < s.channel.cursor l

theorem aligned_new : Aligned ({} : Scene V L) := ⟨Channel.bounded_new, by simp [agenda, chunksFor]⟩

theorem step_channel (s : Scene V L) (t : Turn V L) :
    (s.step t).1.channel = match t with
      | .use u => u.after s.channel
      | _ => s.channel := by
  have hbegin : ∀ (s : Scene V L) plan, (s.begin plan).1.channel = s.channel := by
    intro s plan
    cases plan <;> rfl
  cases t with
  | use u => exact hbegin _ _
  | wait => rfl
  | reply returned =>
    unfold step
    cases s.waiting with
    | nil => rfl
    | cons plan rest => exact hbegin _ _

theorem Aligned.adds_below {s : Scene V L} (h : s.Aligned) (t : Turn V L) (l : Nat) :
    s.channel.cursor l ≤ (s.step t).1.channel.cursor l ∧
      ∀ k ∈ s.adds l t, s.channel.cursor l ≤ k ∧ k < (s.step t).1.channel.cursor l := by
  rw [step_channel]
  cases t with
  | use u =>
    obtain ⟨hle, hplan⟩ := Use.chunksFor_plan h.bounded u l
    refine ⟨hle, fun k hk => ?_⟩
    rw [adds, hplan, List.mem_range'_1] at hk
    rw [Nat.add_sub_cancel' hle] at hk
    exact hk
  | wait => exact ⟨Nat.le_refl _, by simp [adds]⟩
  | reply returned => exact ⟨Nat.le_refl _, by simp [adds]⟩

theorem Aligned.adds_ascend {s : Scene V L} (h : s.Aligned) (t : Turn V L) (l : Nat) :
    (s.adds l t).Pairwise (· < ·) := by
  cases t with
  | use u =>
    rw [adds, (Use.chunksFor_plan h.bounded u l).2]
    exact List.pairwise_lt_range' 1
  | wait => exact .nil
  | reply returned => exact .nil

theorem Aligned.step {s : Scene V L} (h : s.Aligned) (t : Turn V L) : (s.step t).1.Aligned := by
  constructor
  · rw [step_channel]
    cases t with
    | use u => exact Use.after_bounded h.bounded u
    | wait => exact h.bounded
    | reply returned => exact h.bounded
  · intro l k hk
    obtain ⟨hle, hadds⟩ := h.adds_below t l
    by_cases ht : s.Drops l t
    · obtain ⟨rfl, -⟩ := ht
      exact Nat.lt_of_lt_of_le (h.below l k ((s.step_agenda_throw l).2.subset hk)) hle
    · have hmem : k ∈ s.adds l t ++ s.agenda l :=
        s.step_agenda l ht ▸ List.mem_append_right _ hk
      rcases List.mem_append.mp hmem with hk | hk
      · exact (hadds k hk).2
      · exact Nat.lt_of_lt_of_le (h.below l k hk) hle

/-! ### Overtaking -/

/-- Some turn sets out to give a data listener chunks while the deliveries under way have older
ones left for it. -/
def Overtaken (s : Scene V L) (l : Nat) : List (Turn V L) → Prop
  | [] => False
  | t :: ts => (s.adds l t ≠ [] ∧ s.agenda l ≠ []) ∨ (s.step t).1.Overtaken l ts

/-- What has been given stays in order with the agenda, unless something overtakes. -/
theorem Aligned.keeps_order {s : Scene V L} (h : s.Aligned) {l : Nat} {past : List Nat}
    (hpast : (past ++ s.agenda l).Pairwise (· < ·)) (hbelow : ∀ k ∈ past, k < s.channel.cursor l)
    {t : Turn V L} (ht : ¬ (s.adds l t ≠ [] ∧ s.agenda l ≠ [])) :
    ((past ++ s.givenNow l t) ++ (s.step t).1.agenda l).Pairwise (· < ·) ∧
      ∀ k ∈ past ++ s.givenNow l t, k < (s.step t).1.channel.cursor l := by
  obtain ⟨hle, hadds⟩ := h.adds_below t l
  by_cases hthrow : s.Drops l t
  · obtain ⟨rfl, -⟩ := hthrow
    obtain ⟨hnone, hsuffix⟩ := s.step_agenda_throw l
    rw [hnone, List.append_nil]
    refine ⟨hpast.sublist (hsuffix.sublist.append_left past), fun k hk => ?_⟩
    exact Nat.lt_of_lt_of_le (hbelow k hk) hle
  have hagenda := s.step_agenda l hthrow
  have hnow : ∀ k ∈ s.givenNow l t, k < (s.step t).1.channel.cursor l := by
    intro k hk
    have hmem : k ∈ s.adds l t ++ s.agenda l := hagenda ▸ List.mem_append_left _ hk
    rcases List.mem_append.mp hmem with hk | hk
    · exact (hadds k hk).2
    · exact Nat.lt_of_lt_of_le (h.below l k hk) hle
  refine ⟨?_, fun k hk => ?_⟩
  · rw [List.append_assoc, hagenda]
    by_cases hnone : s.adds l t = []
    · rw [hnone]
      exact hpast
    · -- nothing is left for the listener, so the new chunks come next
      have hempty : s.agenda l = [] := Classical.not_not.mp fun hne => ht ⟨hnone, hne⟩
      rw [hempty, List.append_nil] at hpast ⊢
      refine List.pairwise_append.mpr ⟨hpast, h.adds_ascend t l, fun i hi j hj => ?_⟩
      exact Nat.lt_of_lt_of_le (hbelow i hi) (hadds j hj).1
  · rcases List.mem_append.mp hk with hk | hk
    · exact Nat.lt_of_lt_of_le (hbelow k hk) hle
    · exact hnow k hk

theorem Aligned.past_given_ascend {s : Scene V L} (h : s.Aligned) {l : Nat} {past : List Nat}
    (hpast : (past ++ s.agenda l).Pairwise (· < ·)) (hbelow : ∀ k ∈ past, k < s.channel.cursor l)
    {ts : List (Turn V L)} (hts : ¬ s.Overtaken l ts) :
    (past ++ s.given l ts).Pairwise (· < ·) := by
  induction ts generalizing s past with
  | nil =>
    have hnone : s.given l [] = [] := rfl
    rw [hnone, List.append_nil]
    exact (List.pairwise_append.mp hpast).1
  | cons t ts ih =>
    obtain ⟨hnow, hlater⟩ := not_or.mp hts
    obtain ⟨hpast', hbelow'⟩ := h.keeps_order hpast hbelow hnow
    rw [given_cons, ← List.append_assoc]
    exact ih (h.step t) hpast' hbelow' hlater

/-- A listener that is never overtaken gets its chunks in ascending order, whatever throws. -/
theorem Aligned.given_ascend {s : Scene V L} (h : s.Aligned) {l : Nat}
    (hagenda : (s.agenda l).Pairwise (· < ·)) {ts : List (Turn V L)} (hts : ¬ s.Overtaken l ts) :
    (s.given l ts).Pairwise (· < ·) :=
  h.past_given_ascend (List.nil_append _ ▸ hagenda) (fun _ hk => absurd hk List.not_mem_nil) hts

/-- No call that throws takes chunks off the agenda of a listener. -/
def Intact (s : Scene V L) (l : Nat) : List (Turn V L) → Prop
  | [] => True
  | t :: ts => ¬ s.Drops l t ∧ (s.step t).1.Intact l ts

/-- When no call throws, no agenda loses anything. -/
theorem intact_of_returns {s : Scene V L} {ts : List (Turn V L)} (h : .reply false ∉ ts) (l : Nat) :
    s.Intact l ts := by
  induction ts generalizing s with
  | nil => trivial
  | cons t ts ih =>
    obtain ⟨ht, hts⟩ := not_or.mp fun hm => h (List.mem_cons.mpr hm)
    exact ⟨fun hd => ht hd.1.symm, ih hts⟩

/-- Once all calls have returned, everything on the agenda has been given. -/
theorem agenda_sublist_given {s : Scene V L} {l : Nat} {ts : List (Turn V L)}
    (hts : s.Intact l ts) (hdone : (s.after ts).waiting = []) :
    (s.agenda l).Sublist (s.given l ts) := by
  induction ts generalizing s with
  | nil =>
    have hnone : s.agenda l = [] := by
      have hwaiting : s.waiting = [] := hdone
      simp [agenda, hwaiting, chunksFor]
    rw [hnone]
    exact List.nil_sublist _
  | cons t ts ih =>
    have hrest := (ih hts.2 hdone).append_left (s.givenNow l t)
    rw [s.step_agenda l hts.1] at hrest
    rw [given_cons]
    exact (List.sublist_append_right _ _).trans hrest

/-- A listener that has been overtaken has got a newer chunk before an older one, once all calls
have returned. -/
theorem Aligned.overtaken_disorder {s : Scene V L} (h : s.Aligned) {l : Nat}
    {ts : List (Turn V L)} (hts : s.Intact l ts) (hdone : (s.after ts).waiting = [])
    (hover : s.Overtaken l ts) : ¬ (s.given l ts).Pairwise (· < ·) := by
  induction ts generalizing s with
  | nil => exact hover.elim
  | cons t ts ih =>
    rw [given_cons]
    intro hasc
    rcases hover with ⟨hnew, hold⟩ | hover
    · -- the whole agenda, with what was put in front of it, is among what has been given
      have hsub := (agenda_sublist_given hts.2 hdone).append_left (s.givenNow l t)
      rw [s.step_agenda l hts.1] at hsub
      obtain ⟨k, hk⟩ := List.exists_mem_of_ne_nil _ hnew
      obtain ⟨j, hj⟩ := List.exists_mem_of_ne_nil _ hold
      have hlt : k < j := (List.pairwise_append.mp (hasc.sublist hsub)).2.2 k hk j hj
      have hj' := h.below l j hj
      have hk' := ((h.adds_below t l).2 k hk).1
      omega
    · exact ih (h.step t) hts.2 hdone hover (List.pairwise_append.mp hasc).2.1

/-! ### What the calls hand over -/

/-- What a listener is told is what the channel has under the indices of its call. The reason of an
error may be replaced later. -/
def Tells (c : Channel V L) (d : Delivery) (told : L × Notice V) : Prop :=
  match d with
  | .error l => c.errorListeners[l]? = some told.1 ∧ told.2.isError = true
  | d => c.notice? d = some told

theorem tells_of_notice {c : Channel V L} {d : Delivery} {told : L × Notice V}
    (h : c.notice? d = some told) : Tells c d told := by
  cases d with
  | error l =>
    refine ⟨?_, (Channel.notice?_isError h).mpr ⟨l, rfl⟩⟩
    cases hl : c.errorListeners[l]? <;> simp [Channel.notice?, hl] at h
    rw [← h]
  | _ => exact h

/-- A channel has more chunks and more listeners than before, behind those that there were. -/
structure Extends (c c' : Channel V L) : Prop where
  chunks : c.chunks <+: c'.chunks
  data : c.dataListeners <+: c'.dataListeners
  error : c.errorListeners <+: c'.errorListeners
  «end» : c.endListeners <+: c'.endListeners

/-- What is marked in a channel changes none of its lists. -/
theorem extends_mark (c : Channel V L) (ledger : Ledger) (reason : Option V) :
    Extends c { c with ledger, reason } :=
  ⟨List.prefix_refl _, List.prefix_refl _, List.prefix_refl _, List.prefix_refl _⟩

theorem extends_refl (c : Channel V L) : Extends c c := extends_mark c c.ledger c.reason

theorem Extends.trans {a b c : Channel V L} (h : Extends a b) (h' : Extends b c) : Extends a c :=
  ⟨h.chunks.trans h'.chunks, h.data.trans h'.data, h.error.trans h'.error, h.end.trans h'.end⟩

theorem extends_change (c : Channel V L) (u : Use V L) : Extends c (u.change c) := by
  cases u with
  | push chunk => exact { extends_refl c with chunks := List.prefix_append _ _ }
  | listen event listener =>
    cases event with
    | data => exact { extends_refl c with data := List.prefix_append _ _ }
    | error => exact { extends_refl c with error := List.prefix_append _ _ }
    | «end» => exact { extends_refl c with «end» := List.prefix_append _ _ }
  | finish => exact extends_mark c _ _
  | acknowledge reason =>
    cases reason with
    | none => exact extends_refl c
    | some e =>
      simp only [Use.change, Channel.fail_eq]
      split
      · exact extends_refl c
      · exact extends_mark c _ _

theorem extends_after (c : Channel V L) (u : Use V L) : Extends c (u.after c) := by
  cases u with
  | push chunk => exact extends_change c (.push chunk)
  | _ => exact (extends_change c _).trans (extends_mark _ _ _)

theorem extends_step (s : Scene V L) (t : Turn V L) : Extends s.channel (s.step t).1.channel := by
  rw [step_channel]
  cases t with
  | use u => exact extends_after s.channel u
  | wait => exact extends_refl _
  | reply returned => exact extends_refl _

theorem extends_run (s : Scene V L) (ts : List (Turn V L)) :
    Extends s.channel (s.after ts).channel := by
  induction ts generalizing s with
  | nil => exact extends_refl _
  | cons t ts ih => exact (extends_step s t).trans (ih _)

theorem getElem?_extends {α : Type} {xs ys : List α} (h : xs <+: ys) {i : Nat} {a : α}
    (hi : xs[i]? = some a) : ys[i]? = some a := by
  obtain ⟨hlt, -⟩ := List.getElem?_eq_some_iff.mp hi
  rw [← hi]
  exact (List.prefix_iff_getElem?.mp h i hlt).trans (List.getElem?_eq_getElem hlt).symm

theorem Tells.mono {c c' : Channel V L} (h : Extends c c') {d : Delivery} {told : L × Notice V}
    (ht : Tells c d told) : Tells c' d told := by
  cases d with
  | error l => exact ⟨getElem?_extends h.error ht.1, ht.2⟩
  | data l k =>
    simp only [Tells, Channel.notice?] at ht ⊢
    cases hl : c.dataListeners[l]? <;> cases hk : c.chunks[k]? <;> simp [hl, hk] at ht
    simp [getElem?_extends h.data hl, getElem?_extends h.chunks hk, ht]
  | «end» l =>
    simp only [Tells, Channel.notice?] at ht ⊢
    cases hl : c.endListeners[l]? <;> simp [hl] at ht
    simp [getElem?_extends h.end hl, ht]

/-- A call that is made tells what the channel has when it is made. -/
theorem Sound.step_tells {s : Scene V L} (h : s.Sound) {t : Turn V L} {call : Made V L}
    (hc : call ∈ (s.step t).2) :
    ∃ told, call.told = some told ∧ Tells (s.step t).1.channel call.delivery told := by
  have hbegin : ∀ (s : Scene V L) plan, s.channel.InStep → (∀ d ∈ plan, s.channel.ledger.Has d) →
      call ∈ (s.begin plan).2 →
      ∃ told, call.told = some told ∧ Tells (s.begin plan).1.channel call.delivery told := by
    intro s plan hin hhas hc
    cases plan with
    | nil => cases hc
    | cons d rest =>
      cases hc
      obtain ⟨told, htold⟩ := hin.notice (hhas d List.mem_cons_self)
      exact ⟨told, htold, tells_of_notice htold⟩
  cases t with
  | use u => exact hbegin _ _ (Use.after_inStep h.inStep u) (fun _ => Use.plan_has) hc
  | wait => cases hc
  | reply returned =>
    unfold Scene.step at hc ⊢
    cases hw : s.waiting with
    | nil => simp [hw] at hc
    | cons plan rest =>
      simp only [hw] at hc ⊢
      have hhas := h.has plan (hw ▸ List.mem_cons_self)
      refine hbegin _ _ h.inStep (fun d hd => ?_) hc
      cases returned with
      | true => exact hhas d hd
      | false => cases hd

/-- Every call hands over what its indices stand for at the end. -/
theorem Sound.calls_tell {s : Scene V L} (h : s.Sound) (ts : List (Turn V L)) :
    ∀ call ∈ s.calls ts, ∃ told, call.told = some told ∧
      Tells (s.after ts).channel call.delivery told := by
  induction ts generalizing s with
  | nil => simp [calls]
  | cons t ts ih =>
    intro call hc
    rcases List.mem_append.mp hc with hc | hc
    · obtain ⟨told, htold, htells⟩ := h.step_tells (Option.mem_toList.mp hc)
      exact ⟨told, htold, htells.mono (extends_run _ ts)⟩
    · exact ih (h.step t) call hc

end Scene
end GuestLint.Stream
