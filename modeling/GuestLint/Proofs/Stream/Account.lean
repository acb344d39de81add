import Mathlib.Data.List.Nodup
import GuestLint.Proofs.Stream.Order

/-!
# What became of the planned calls

A call is planned when a delivery sets out to make it, and it is never planned twice. From then on
it is in one of three states: it has been made, it is left for a delivery under way, or it was
dropped because an earlier call of its delivery has thrown. A dropped call is marked as made like
all others, so no later delivery plans it again.

* `Scene.history`: the plans of a scene are those of the ledger's operations.
* `Scene.account`: planned calls have been made, are left, or were dropped.
* `Scene.calls_nodup`: no call is made twice.
* `Scene.made_iff_kept`: when nothing is due and nothing is left, what was owed has been made unless
  it was dropped.
* `Scene.after_chunks`, `Scene.after_listeners`: the lists of a channel are what was pushed and
  registered, in order.
-/
namespace GuestLint.Stream

variable {V L : Type}

/-! ## Owed calls -/

/-- The state of a ledger asks for a call: chunks and the end while it is not errored, errors when
it is. -/
def Ledger.Owes (s : Ledger) : Delivery → Prop
  | .data l k => s.errored = false ∧ l < s.cursors.length ∧ k < s.chunks
  | .error l => s.errored = true ∧ l < s.errorFired.length
  | .end l => s.ended = true ∧ s.errored = false ∧ l < s.endFired.length

theorem count_data (l k : Nat) (plan : List Delivery) :
    plan.count (.data l k) = (chunksFor l plan).count k := by
  induction plan with
  | nil => rfl
  | cons d plan ih =>
    cases d with
    | data l' k' =>
      by_cases hl : l' = l
      · subst hl
        by_cases hk : k' = k <;> simp [chunksFor, ih, hk]
      · simp [chunksFor, ih, hl]
    | error l' => simp [chunksFor, ih]
    | «end» l' => simp [chunksFor, ih]

namespace Ledger.History

/-- No call is planned twice. -/
theorem Kept.count_le_one {h : History} (k : Kept h) (d : Delivery) : h.calls.count d ≤ 1 := by
  cases d with
  | data l c =>
    rw [count_data, k.data]
    exact List.nodup_iff_count_le_one.mp List.nodup_range c
  | error l =>
    rw [k.error]
    split <;> omega
  | «end» l =>
    rw [k.end]
    split <;> omega

/-- When nothing is due, every call that is owed has been planned. -/
theorem Kept.planned_of_owed {h : History} (k : Kept h) (hdue : h.ledger.deliver.1 = [])
    {d : Delivery} (hd : h.ledger.Owes d) : d ∈ h.calls := by
  obtain ⟨hdata, herror, hend⟩ := k.caught_up
  have hnone : (h.step .deliver).calls = h.calls := by
    rw [calls_deliver, hdue, List.append_nil]
  rw [hnone] at hdata herror hend
  cases d with
  | data l c =>
    obtain ⟨hopen, hl, hc⟩ := hd
    have hmem : c ∈ chunksFor l h.calls := by
      rw [hdata hopen l hl]
      exact List.mem_range.mpr hc
    rw [← List.count_pos_iff, count_data]
    exact List.count_pos_iff.mpr hmem
  | error l => exact herror hd.1 l hd.2
  | «end» l => exact hend hd.1 hd.2.1 l hd.2.2

end Ledger.History

/-! ## Uses as operations of the ledger -/

namespace Use

/-- What a use does to the ledger. -/
def operations : Use V L → List Ledger.Operation
  | .push _ => [.push]
  | .listen .data _ => [.addData, .deliver]
  | .listen .error _ => [.addError, .deliver]
  | .listen .end _ => [.addEnd, .deliver]
  | .finish => [.finish, .deliver]
  | .acknowledge (some _) => [.fail, .deliver]
  | .acknowledge none => [.deliver]

/-- A use delivers, unless it buffers a chunk. -/
def Delivers : Use V L → Prop
  | .push _ => False
  | _ => True

theorem fail_ledger (c : Channel V L) (reason : V) : (c.fail reason).ledger = c.ledger.fail.2 := by
  cases h : c.ledger.ended <;> simp [Channel.fail, Ledger.fail, h]

/-- The history of a use: the ledger that it leaves, and the calls that it plans. -/
theorem history (c : Channel V L) (h : Ledger.History) (hl : h.ledger = c.ledger) (u : Use V L) :
    (h.after u.operations).ledger = (u.after c).ledger ∧
      (h.after u.operations).calls = h.calls ++ u.plan c := by
  obtain ⟨ledger, plans⟩ := h
  subst hl
  have hdeliver : ∀ c' : Channel V L,
      ((⟨c'.ledger, plans⟩ : Ledger.History).step .deliver).ledger = c'.marked.ledger ∧
      ((⟨c'.ledger, plans⟩ : Ledger.History).step .deliver).calls =
        (⟨c'.ledger, plans⟩ : Ledger.History).calls ++ c'.due :=
    fun c' => ⟨rfl, Ledger.History.calls_deliver _⟩
  cases u with
  | push chunk => exact ⟨rfl, (List.append_nil _).symm⟩
  | listen event listener =>
    cases event with
    | data => exact hdeliver (c.add .data listener)
    | error => exact hdeliver (c.add .error listener)
    | «end» => exact hdeliver (c.add .end listener)
  | finish => exact hdeliver c.finish
  | acknowledge reason =>
    cases reason with
    | none => exact hdeliver c
    | some e =>
      have hfail := hdeliver (c.fail e)
      rw [fail_ledger] at hfail
      exact hfail

end Use

namespace Channel

theorem unfired_replicate (start n : Nat) :
    Ledger.unfired start (List.replicate n true) = [] := by
  induction n generalizing start with
  | zero => rfl
  | succ n ih => exact ih _

theorem pendingData_replicate (chunks start n : Nat) :
    Ledger.pendingData chunks start (List.replicate n chunks) = [] := by
  induction n generalizing start with
  | zero => rfl
  | succ n ih =>
    simp only [List.replicate_succ, Ledger.pendingData, Nat.sub_self, List.range'_zero,
      List.map_nil, List.nil_append]
    exact ih _

/-- Right after a delivery nothing is due. -/
theorem marked_due (c : Channel V L) : c.marked.due = [] := by
  unfold due marked
  cases herr : c.ledger.errored <;> cases hend : c.ledger.ended <;>
    simp [Ledger.deliver, herr, hend, unfired_replicate, pendingData_replicate]

end Channel

theorem Use.Delivers.after_due {u : Use V L} (hu : u.Delivers) (c : Channel V L) :
    (u.after c).due = [] := by
  cases u with
  | push chunk => exact hu.elim
  | _ => exact Channel.marked_due _

/-! ## The account of a scene -/

namespace Turn

/-- What a turn does to the ledger. -/
def operations : Turn V L → List Ledger.Operation
  | .use u => u.operations
  | _ => []

end Turn

namespace Scene

/-- The calls that a turn sets out to make. -/
def plans (s : Scene V L) : Turn V L → List Delivery
  | .use u => u.plan s.channel
  | _ => []

/-- The calls that a turn gives up: what a delivery had left when one of its calls threw. -/
def drops (s : Scene V L) : Turn V L → List Delivery
  | .reply false => s.waiting.headD []
  | _ => []

/-- The calls that are planned on the way, in order. -/
def planned (s : Scene V L) : List (Turn V L) → List Delivery
  | [] => []
  | t :: ts => s.plans t ++ (s.step t).1.planned ts

/-- The calls that are given up on the way, in order. -/
def dropped (s : Scene V L) : List (Turn V L) → List Delivery
  | [] => []
  | t :: ts => s.drops t ++ (s.step t).1.dropped ts

/-- The calls that are made on the way, in order. -/
def made (s : Scene V L) (ts : List (Turn V L)) : List Delivery := (s.calls ts).map (·.delivery)

theorem made_cons (s : Scene V L) (t : Turn V L) (ts : List (Turn V L)) :
    s.made (t :: ts) = (s.step t).2.toList.map (·.delivery) ++ (s.step t).1.made ts :=
  List.map_append

theorem dropped_append (s : Scene V L) (ts rest : List (Turn V L)) :
    s.dropped (ts ++ rest) = s.dropped ts ++ (s.after ts).dropped rest := by
  induction ts generalizing s with
  | nil => rfl
  | cons t ts ih =>
    show s.drops t ++ (s.step t).1.dropped (ts ++ rest) = _
    rw [ih, ← List.append_assoc]
    rfl

/-- While no call throws, nothing is dropped. -/
theorem dropped_of_returns {s : Scene V L} {ts : List (Turn V L)} (h : .reply false ∉ ts) :
    s.dropped ts = [] := by
  induction ts generalizing s with
  | nil => rfl
  | cons t ts ih =>
    obtain ⟨ht, hts⟩ := not_or.mp fun hm => h (List.mem_cons.mpr hm)
    have hnow : s.drops t = [] := by
      cases t with
      | reply returned =>
        cases returned with
        | true => rfl
        | false => exact absurd rfl ht
      | _ => rfl
    show s.drops t ++ _ = _
    rw [hnow, ih hts]
    rfl

/-- The plans of a scene are those of the operations on its ledger. -/
theorem history (s : Scene V L) (h : Ledger.History) (hl : h.ledger = s.channel.ledger)
    (ts : List (Turn V L)) :
    (h.after (ts.flatMap Turn.operations)).ledger = (s.after ts).channel.ledger ∧
      (h.after (ts.flatMap Turn.operations)).calls = h.calls ++ s.planned ts := by
  induction ts generalizing s h with
  | nil => exact ⟨hl, (List.append_nil _).symm⟩
  | cons t ts ih =>
    have hstep : (h.after t.operations).ledger = (s.step t).1.channel.ledger ∧
        (h.after t.operations).calls = h.calls ++ s.plans t := by
      rw [step_channel]
      cases t with
      | use u => exact u.history s.channel h hl
      | wait => exact ⟨hl, (List.append_nil _).symm⟩
      | reply returned => exact ⟨hl, (List.append_nil _).symm⟩
    obtain ⟨hledger, hcalls⟩ := ih (s.step t).1 (h.after t.operations) hstep.1
    rw [List.flatMap_cons, Ledger.History.after_append]
    refine ⟨hledger, hcalls.trans ?_⟩
    rw [hstep.2, List.append_assoc]
    rfl

/-- The calls that a new scene plans are the calls of a kept history with its ledger. -/
theorem kept_planned (ts : List (Turn V L)) :
    ∃ h : Ledger.History, h.Kept ∧ h.ledger = (({} : Scene V L).after ts).channel.ledger ∧
      h.calls = ({} : Scene V L).planned ts := by
  obtain ⟨hledger, hcalls⟩ := history ({} : Scene V L) {} rfl ts
  exact ⟨_, Ledger.History.kept_new.after _, hledger, hcalls⟩

theorem begin_account (s : Scene V L) (plan : List Delivery) (d : Delivery) :
    plan.count d + s.waiting.flatten.count d =
      ((s.begin plan).2.toList.map (·.delivery)).count d +
        (s.begin plan).1.waiting.flatten.count d := by
  cases plan with
  | nil => simp [begin]
  | cons e rest =>
    simp only [begin, Option.toList_some, List.map_cons, List.map_nil, List.flatten_cons,
      List.count_cons, List.count_append, List.count_nil]
    omega

/-- What a turn plans, and what was left before it, is made, dropped or left. -/
theorem step_account (s : Scene V L) (t : Turn V L) (d : Delivery) :
    (s.plans t).count d + s.waiting.flatten.count d =
      ((s.step t).2.toList.map (·.delivery)).count d + (s.drops t).count d +
        (s.step t).1.waiting.flatten.count d := by
  cases t with
  | use u =>
    have hbegin := begin_account { s with channel := u.after s.channel } (u.plan s.channel) d
    simpa [plans, drops, step] using hbegin
  | wait => simp [plans, drops, step]
  | reply returned =>
    unfold step
    cases hw : s.waiting with
    | nil => cases returned <;> simp [plans, drops, hw]
    | cons plan rest =>
      have hbegin := begin_account { s with waiting := rest } (if returned then plan else []) d
      cases returned with
      | true => simpa [plans, drops, List.count_append] using hbegin
      | false =>
        simp only [Bool.false_eq_true, if_false, List.count_nil, Nat.zero_add] at hbegin
        simp only [plans, drops, hw, Bool.false_eq_true, if_false, List.headD_cons,
          List.flatten_cons, List.count_nil, List.count_append]
        omega

/-- **Account.** What has been planned, and what was left at the start, has been made, was dropped,
or is still left. -/
theorem account (s : Scene V L) (ts : List (Turn V L)) (d : Delivery) :
    (s.planned ts).count d + s.waiting.flatten.count d =
      (s.made ts).count d + (s.dropped ts).count d + (s.after ts).waiting.flatten.count d := by
  induction ts generalizing s with
  | nil => simp [planned, made, calls, dropped, after]
  | cons t ts ih =>
    have hnow := s.step_account t d
    have hlater := ih (s.step t).1
    rw [made_cons]
    simp only [planned, dropped, after, List.count_append]
    omega

/-- No call is made twice, whatever re-enters and whatever throws. -/
theorem calls_nodup (ts : List (Turn V L)) : (({} : Scene V L).made ts).Nodup := by
  rw [List.nodup_iff_count_le_one]
  intro d
  obtain ⟨h, hkept, -, hcalls⟩ := kept_planned (V := V) (L := L) ts
  have hplanned := hkept.count_le_one d
  rw [hcalls] at hplanned
  have haccount := account ({} : Scene V L) ts d
  simp only [List.flatten_nil, List.count_nil] at haccount
  omega

/-- A dropped call is never made, before or after. -/
theorem dropped_not_made {ts : List (Turn V L)} {d : Delivery}
    (hd : d ∈ ({} : Scene V L).dropped ts) (later : List (Turn V L)) :
    d ∉ ({} : Scene V L).made (ts ++ later) := by
  obtain ⟨h, hkept, -, hcalls⟩ := kept_planned (V := V) (L := L) (ts ++ later)
  have hplanned := hkept.count_le_one d
  rw [hcalls] at hplanned
  have hdropped := List.count_pos_iff.mpr hd
  have haccount := account ({} : Scene V L) (ts ++ later) d
  rw [dropped_append] at haccount
  simp only [List.flatten_nil, List.count_nil, List.count_append] at haccount
  rw [← List.count_eq_zero]
  omega

/-- When nothing is due and nothing is left, a call that is owed has been made, unless it was
dropped; never both. -/
theorem made_iff_kept {ts : List (Turn V L)} (hdue : (({} : Scene V L).after ts).channel.due = [])
    (hleft : (({} : Scene V L).after ts).waiting.flatten = []) {d : Delivery}
    (hd : (({} : Scene V L).after ts).channel.ledger.Owes d) :
    d ∈ ({} : Scene V L).made ts ↔ d ∉ ({} : Scene V L).dropped ts := by
  obtain ⟨h, hkept, hledger, hcalls⟩ := kept_planned (V := V) (L := L) ts
  have hdue' : h.ledger.deliver.1 = [] := hledger ▸ hdue
  have hplanned := hkept.planned_of_owed hdue' (hledger ▸ hd)
  have hpos := List.count_pos_iff.mpr hplanned
  have hle := hkept.count_le_one d
  rw [hcalls] at hpos hle
  have haccount := account ({} : Scene V L) ts d
  rw [hleft] at haccount
  simp only [List.flatten_nil, List.count_nil] at haccount
  rw [← List.count_pos_iff, ← List.count_eq_zero]
  omega

end Scene

/-! ## The lists of a channel -/

/-- The listeners of a channel that wait for an event, in the order of their registration. -/
def Channel.listeners (c : Channel V L) : Event → List L
  | .data => c.dataListeners
  | .error => c.errorListeners
  | .end => c.endListeners

namespace Use

/-- The chunk that a use pushes. -/
def chunk? : Use V L → Option V
  | .push chunk => some chunk
  | _ => none

/-- The listener that a use registers for an event. -/
def listener? (event : Event) : Use V L → Option L
  | .listen e listener => if e = event then some listener else none
  | _ => none

theorem after_chunks (c : Channel V L) (u : Use V L) :
    (u.after c).chunks = c.chunks ++ u.chunk?.toList := by
  cases u with
  | push chunk => rfl
  | listen event listener => cases event <;> exact (List.append_nil _).symm
  | finish => exact (List.append_nil _).symm
  | acknowledge reason =>
    cases reason with
    | none => exact (List.append_nil _).symm
    | some e =>
      simp only [after, change, Channel.marked, Channel.fail_eq]
      split <;> exact (List.append_nil _).symm

theorem after_listeners (c : Channel V L) (u : Use V L) (event : Event) :
    (u.after c).listeners event = c.listeners event ++ (u.listener? event).toList := by
  cases u with
  | listen e listener => cases e <;> cases event <;> first | rfl | exact (List.append_nil _).symm
  | acknowledge reason =>
    cases reason with
    | none => cases event <;> exact (List.append_nil _).symm
    | some e =>
      simp only [after, change, Channel.marked, Channel.fail_eq]
      cases event <;> split <;> exact (List.append_nil _).symm
  | _ => cases event <;> exact (List.append_nil _).symm

end Use

/-- The use that a turn makes of the channel. -/
def Turn.use? : Turn V L → Option (Use V L)
  | .use u => some u
  | _ => none

namespace Scene

/-- Only uses change the channel. -/
theorem after_channel (s : Scene V L) (ts : List (Turn V L)) :
    (s.after ts).channel = (ts.filterMap Turn.use?).foldl (fun c u => u.after c) s.channel := by
  induction ts generalizing s with
  | nil => rfl
  | cons t ts ih =>
    refine (ih (s.step t).1).trans ?_
    rw [step_channel]
    cases t <;> rfl

/-- A list of a channel that each use only adds to is what the uses have added, in order. -/
theorem after_collected {α : Type} (collected : Channel V L → List α) (added? : Use V L → Option α)
    (hadds : ∀ c u, collected (u.after c) = collected c ++ (added? u).toList) (s : Scene V L)
    (ts : List (Turn V L)) :
    collected (s.after ts).channel =
      collected s.channel ++ (ts.filterMap Turn.use?).filterMap added? := by
  rw [after_channel]
  generalize ts.filterMap Turn.use? = us
  generalize s.channel = c
  induction us generalizing c with
  | nil => exact (List.append_nil _).symm
  | cons u us ih =>
    rw [List.foldl_cons, ih, hadds, List.append_assoc]
    cases hu : added? u <;> simp [hu]

/-- The chunks of a channel are those that were pushed. -/
theorem after_chunks (s : Scene V L) (ts : List (Turn V L)) :
    (s.after ts).channel.chunks =
      s.channel.chunks ++ (ts.filterMap Turn.use?).filterMap Use.chunk? :=
  after_collected Channel.chunks Use.chunk? Use.after_chunks s ts

/-- The listeners of a channel are those that were registered. -/
theorem after_listeners (s : Scene V L) (event : Event) (ts : List (Turn V L)) :
    (s.after ts).channel.listeners event =
      s.channel.listeners event ++ (ts.filterMap Turn.use?).filterMap (Use.listener? event) :=
  after_collected (·.listeners event) (Use.listener? event)
    (fun c u => Use.after_listeners c u event) s ts

end Scene
end GuestLint.Stream
