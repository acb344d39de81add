import Mathlib.Data.Finset.Card
import GuestLint.Proofs.Guest.Bodies

/-!
# How deep requires nest

Modules may require each other in cycles, fail, lose their entries and be run again. Still every
require comes back. A module that is being loaded has an entry, so its body is not run inside
itself: each body that runs inside another one leaves fewer modules whose bodies could run inside
it. This measure is not the cache, which shrinks whenever a body throws.

* `Play`: the require rule and the code of the modules as one machine.
* `Play.Inv.step`: what every step keeps; no two loads in progress are of the same module.
* `comesToEnd`: whatever loads are in progress, code that requires modules comes to its end.
* `requires_come_back`: every require comes back, and no more bodies are nested than there are
  modules.
-/
namespace GuestLint.Guest

open Dialogue (Stage)

/-! ## Bodies that require each other -/

/-- Modules by their identities, each with its code for an entry. -/
abbrev Assignment := List (String × (Ref → Code Unit))

namespace Assignment

variable (mods : Assignment)

/-- The identities that have a body. -/
def ids : List String := mods.map (·.1)

/-- The code that a load runs. There is none for other identities, which is an exception. -/
def body (q : String × Ref) : Code Unit :=
  match mods.lookup q.1 with
  | some code => code q.2
  | none => Code.plain (raiseMissing q.1)

/-- Every body comes back from each of its stretches, and leaves the cache to the require. -/
def Tame : Prop := ∀ m ∈ mods, ∀ entry, entry ≠ Place.moduleCache → (m.2 entry).Tame

end Assignment

/-- A load in progress: its module and its entry, and how it ends. -/
abbrev Load := Dialogue.Frame World (String × Ref) Stop Value

/-- The innermost code with the loads in progress, innermost first. For each load, `callers` has the
code that waits for it. -/
structure Play where
  loads : List Load
  body : Course Unit
  callers : List (Except Stop Value → World → Course Unit)

namespace Play

/-- The guest's own code, before it requires anything. -/
def start (w : World) (main : Code Unit) : Play := ⟨[], main w, []⟩

variable (call : Call) (mods : Assignment)

/-- Goes on when the require rule has an answer or wants a body to be run. -/
def goOn (loads : List Load) (callers : List (Except Stop Value → World → Course Unit))
    (next : Except Stop Value → World → Course Unit) :
    Stage World (String × Ref) Stop Value → Play
  | .done r w => ⟨loads, next r w, callers⟩
  | .ask q w resume => ⟨⟨q, resume⟩ :: loads, mods.body q w, next :: callers⟩

/-- One step; none when the guest's own code is at its end. -/
def step (p : Play) : Option Play :=
  match p.body with
  | .require name w next => some (goOn mods p.loads p.callers next (requireTalk call name w))
  | .done r w =>
    match p.loads, p.callers with
    | load :: loads, next :: callers => some (goOn mods loads callers next (load.next r w))
    | _, _ => none

def after (p : Play) : Nat → Option Play
  | 0 => some p
  | n + 1 => (p.step call mods).bind fun q => q.after n

/-- The machine comes to a state. -/
def Reaches (p q : Play) : Prop := ∃ n, p.after call mods n = some q

/-- The bodies that are running, innermost first. A load whose module has none is left out. -/
def running (p : Play) : List String :=
  (p.loads.map (·.question.1)).filter (· ∈ mods.ids)

variable {call mods}

theorem after_add (p : Play) (n m : Nat) :
    p.after call mods (n + m) = (p.after call mods n).bind fun q => q.after call mods m := by
  induction n generalizing p with
  | zero => simp [after]
  | succ n ih =>
    rw [Nat.succ_add, after, after]
    cases p.step call mods with
    | none => rfl
    | some q => exact ih q

theorem Reaches.refl (p : Play) : p.Reaches call mods p := ⟨0, rfl⟩

theorem Reaches.trans {p q r : Play} (h : p.Reaches call mods q) (h' : q.Reaches call mods r) :
    p.Reaches call mods r := by
  obtain ⟨n, hn⟩ := h
  obtain ⟨m, hm⟩ := h'
  exact ⟨n + m, by rw [after_add, hn, Option.bind_some, hm]⟩

theorem Reaches.of_step {p q r : Play} (h : p.step call mods = some q)
    (h' : q.Reaches call mods r) : p.Reaches call mods r := by
  obtain ⟨n, hn⟩ := h'
  exact ⟨n + 1, by rw [after, h, Option.bind_some, hn]⟩

end Play

/-! ## Loads in progress -/

/-- The load that begins for a module without an entry. -/
def newLoad (w : World) (id : String) : Load :=
  ⟨(id, w.heap.size + 1), afterBody (id, w.heap.size + 1)⟩

/-- The loads in progress end as loads do, they are of different modules, and each module has an
entry. -/
structure InProgress (loads : List Load) (w : World) : Prop where
  ready : CacheReady w
  next : ∀ f ∈ loads, f.next = afterBody f.question
  nodup : (loads.map (·.question.1)).Nodup
  cached : ∀ f ∈ loads, (cached w f.question.1).isSome
  apart : ∀ f ∈ loads, f.question.2 ≠ Place.moduleCache

namespace InProgress

variable {loads : List Load} {w : World}

theorem nil (hw : CacheReady w) : InProgress [] w :=
  ⟨hw, by simp, List.nodup_nil, by simp, by simp⟩

theorem spares {w' : World} (h : InProgress loads w) (hw : SparesCache w w') :
    InProgress loads w' :=
  ⟨hw.ready h.ready, h.next, h.nodup,
    fun f hf => by rw [cached_congr hw.cache h.ready]; exact h.cached f hf, h.apart⟩

/-- A load begins for a module that has no entry. -/
theorem begin {id : String} (h : InProgress loads w) (hid : Guest.cached w id = none) :
    id ∉ loads.map (·.question.1) ∧
      InProgress (newLoad w id :: loads) (begun w id) := by
  have hnew : id ∉ loads.map (·.question.1) := by
    intro hm
    obtain ⟨f, hf, rfl⟩ := List.mem_map.mp hm
    have hsome := h.cached f hf
    rw [hid] at hsome
    cases hsome
  refine ⟨hnew, begun_ready h.ready id, ?_, List.nodup_cons.mpr ⟨hnew, h.nodup⟩, ?_, ?_⟩
  · intro f hf
    rcases List.mem_cons.mp hf with rfl | hf
    · rfl
    · exact h.next f hf
  · intro f hf
    rw [begun_cached h.ready]
    rcases List.mem_cons.mp hf with rfl | hf
    · simp [newLoad]
    · split
      · rfl
      · exact h.cached f hf
  · intro f hf
    rcases List.mem_cons.mp hf with rfl | hf
    · exact (begun_entry h.ready id).ne_cache
    · exact h.apart f hf

/-- The innermost load ends, and the others go on. -/
theorem ends {f : Load} (h : InProgress (f :: loads) w) {r : Except Stop Unit}
    (hr : Ordinary r) :
    ∃ v w', f.next r w = .done v w' ∧ Ordinary v ∧ InProgress loads w' := by
  obtain ⟨hready, hnext, hnodup, hcached, hapart⟩ := h
  obtain ⟨hnew, hnodup⟩ := List.nodup_cons.mp hnodup
  have hne := hapart f List.mem_cons_self
  have hlater : ∀ {g}, g ∈ loads → g ∈ f :: loads := List.mem_cons_of_mem f
  rw [hnext f List.mem_cons_self]
  cases r with
  | ok a =>
    have hspares : SparesCache w (completed w f.question.2) :=
      ⟨by simp [completed], completed_at hne.symm⟩
    have hrest : InProgress loads w :=
      ⟨hready, fun g hg => hnext g (hlater hg), hnodup, fun g hg => hcached g (hlater hg),
        fun g hg => hapart g (hlater hg)⟩
    exact ⟨_, _, rfl, .ok _, hrest.spares hspares⟩
  | error e =>
    obtain ⟨v, rfl⟩ := hr e rfl
    refine ⟨_, _, rfl, .thrown v, evicted_ready hready _, fun g hg => hnext g (hlater hg), hnodup,
      fun g hg => ?_, fun g hg => hapart g (hlater hg)⟩
    rw [evicted_cached hready, if_neg fun heq => hnew (List.mem_map.mpr ⟨g, hg, heq⟩)]
    exact hcached g (hlater hg)

end InProgress

/-! ## The steps of the machine -/

namespace Play

variable {call : Call} {mods : Assignment} {loads : List Load}
  {callers : List (Except Stop Value → World → Course Unit)} {w : World} {name : String}
  {next : Except Stop Value → World → Course Unit}

theorem step_hit {entry : Ref} (h : cached w (w.registry.resolve name) = some entry) :
    step call mods ⟨loads, .require name w next, callers⟩ =
      some ⟨loads, next (.ok (exportsOf w entry)) w, callers⟩ := by
  simp only [step, require_hit call h, goOn]

theorem step_miss (h : cached w (w.registry.resolve name) = none) :
    step call mods ⟨loads, .require name w next, callers⟩ =
      some ⟨newLoad w (w.registry.resolve name) :: loads,
        mods.body (newLoad w (w.registry.resolve name)).question
          (begun w (w.registry.resolve name)),
        next :: callers⟩ := by
  simp only [step, require_miss call h, goOn, newLoad]

theorem step_ends {f : Load} {r : Except Stop Unit} {v : Except Stop Value} {w' : World}
    (h : f.next r w = .done v w') :
    step call mods ⟨f :: loads, .done r w, next :: callers⟩ =
      some ⟨loads, next v w', callers⟩ := by
  simp only [step, h, goOn]

end Play

variable {call : Call} {mods : Assignment}

theorem Assignment.Tame.body (h : mods.Tame) {q : String × Ref}
    (hq : q.2 ≠ Place.moduleCache) : (mods.body q).Tame := by
  unfold Assignment.body
  cases hl : mods.lookup q.1 with
  | some code =>
    obtain ⟨before, later, hmods, -⟩ := List.lookup_eq_some_iff.mp hl
    exact h (q.1, code) (by simp [hmods]) q.2 hq
  | none =>
    refine Code.Tame.plain fun w hw => ?_
    obtain ⟨e, w', hrun, hspares⟩ := raiseMissing_run hw q.1
    rw [hrun]
    exact ⟨.thrown e, hspares⟩

/-- The body of an identity that has none throws at once. -/
theorem Assignment.body_missing {q : String × Ref} {w : World} (hq : q.1 ∉ mods.ids)
    (hw : CacheReady w) :
    ∃ e w', mods.body q w = .done (.error (.thrown e)) w' ∧ SparesCache w w' := by
  have hl : mods.lookup q.1 = none := by
    refine List.lookup_eq_none_iff.mpr fun m hm => ?_
    have hne : q.1 ≠ m.1 := fun heq => hq (List.mem_map.mpr ⟨m, hm, heq.symm⟩)
    simpa using hne
  obtain ⟨e, w', hrun, hspares⟩ := raiseMissing_run hw q.1
  refine ⟨e, w', ?_, hspares⟩
  simp only [Assignment.body, hl, Code.plain, hrun]

/-- What the machine keeps: each load in progress has a caller, and all code in it comes back. -/
structure Play.Inv (p : Play) : Prop where
  progress : ∃ w, InProgress p.loads w ∧ p.body.Tame w
  callers : ∀ next ∈ p.callers, ∀ r w, Ordinary r → CacheReady w → (next r w).Tame w

theorem Play.Inv.start {w : World} {main : Code Unit} (hw : CacheReady w) (hmain : main.Tame) :
    (Play.start w main).Inv :=
  ⟨⟨w, .nil hw, hmain w hw⟩, by simp [Play.start]⟩

theorem Play.Inv.step {p q : Play} (h : p.Inv) (hmods : mods.Tame)
    (hstep : p.step call mods = some q) : q.Inv := by
  obtain ⟨loads, body, callers⟩ := p
  obtain ⟨⟨w0, hprogress, htame⟩, hcallers⟩ := h
  cases htame with
  | done hr hspares =>
    cases loads with
    | nil => simp [Play.step] at hstep
    | cons f loads =>
      cases callers with
      | nil => simp [Play.step] at hstep
      | cons next callers =>
        obtain ⟨v, w', hends, hv, hrest⟩ := (hprogress.spares hspares).ends hr
        obtain rfl := Option.some.inj ((Play.step_ends hends).symm.trans hstep)
        exact ⟨⟨w', hrest, hcallers next List.mem_cons_self v w' hv hrest.ready⟩,
          fun g hg => hcallers g (List.mem_cons_of_mem _ hg)⟩
  | require hspares hnext =>
    rename_i w name next
    have hnow := hprogress.spares hspares
    cases hc : cached w (w.registry.resolve name) with
    | some entry =>
      obtain rfl := Option.some.inj ((Play.step_hit hc).symm.trans hstep)
      exact ⟨⟨w, hnow, hnext _ w (.ok _) hnow.ready⟩, hcallers⟩
    | none =>
      obtain rfl := Option.some.inj ((Play.step_miss hc).symm.trans hstep)
      obtain ⟨-, hbegun⟩ := hnow.begin hc
      have hapart := hbegun.apart _ List.mem_cons_self
      refine ⟨⟨_, hbegun, hmods.body hapart _ hbegun.ready⟩, ?_⟩
      intro g hg
      rcases List.mem_cons.mp hg with rfl | hg
      · exact hnext
      · exact hcallers g hg

theorem Play.Inv.after {p q : Play} {n : Nat} (h : p.Inv) (hmods : mods.Tame)
    (hq : p.after call mods n = some q) : q.Inv := by
  induction n generalizing p with
  | zero => exact Option.some.inj hq ▸ h
  | succ n ih =>
    obtain ⟨p', hstep, hlater⟩ := Option.bind_eq_some_iff.mp hq
    exact ih (h.step hmods hstep) hlater

/-! ## The measure -/

/-- The modules whose bodies may still run inside the loads in progress. -/
def free (mods : Assignment) (loads : List Load) : Finset String :=
  mods.ids.toFinset \ (loads.map (·.question.1)).toFinset

/-- A load inside the others takes its module away from those. -/
theorem card_free_cons {f : Load} {loads : List Load} (hid : f.question.1 ∈ mods.ids)
    (hnew : f.question.1 ∉ loads.map (·.question.1)) :
    (free mods (f :: loads)).card < (free mods loads).card := by
  have herase : free mods (f :: loads) = (free mods loads).erase f.question.1 := by
    ext id
    simp only [free, List.map_cons, List.toFinset_cons, Finset.mem_sdiff, Finset.mem_insert,
      Finset.mem_erase, not_or]
    exact and_left_comm
  rw [herase]
  exact Finset.card_erase_lt_of_mem (by simp [free, hid, hnew])

/-- With these loads in progress, code comes to its end. -/
def ComesToEnd (call : Call) (mods : Assignment) (loads : List Load) : Prop :=
  ∀ callers w (c : Course Unit), InProgress loads w → c.Tame w →
    ∃ r w', Ordinary r ∧ InProgress loads w' ∧
      Play.Reaches call mods ⟨loads, c, callers⟩ ⟨loads, .done r w', callers⟩

/-- A require comes back when the body that it runs comes to its end. -/
theorem require_comes_back (call : Call) {loads : List Load} {w : World}
    (hprogress : InProgress loads w) (hmods : mods.Tame) (name : String)
    (next : Except Stop Value → World → Course Unit)
    (callers : List (Except Stop Value → World → Course Unit))
    (hinner : ∀ f : Load, f.question.1 ∈ mods.ids → f.question.1 ∉ loads.map (·.question.1) →
      ComesToEnd call mods (f :: loads)) :
    ∃ r w', Ordinary r ∧ InProgress loads w' ∧
      Play.Reaches call mods ⟨loads, .require name w next, callers⟩
        ⟨loads, next r w', callers⟩ := by
  cases hc : cached w (w.registry.resolve name) with
  | some entry =>
    exact ⟨_, w, .ok _, hprogress, .of_step (Play.step_hit hc) (.refl _)⟩
  | none =>
    obtain ⟨hnew, hbegun⟩ := hprogress.begin hc
    generalize hload : newLoad w (w.registry.resolve name) = f at hbegun
    have hid : f.question.1 = w.registry.resolve name := hload ▸ rfl
    -- the body that is run comes to its end, whether the module has one or not
    obtain ⟨r, w1, hr, hdone, hreach⟩ : ∃ r w1, Ordinary r ∧ InProgress (f :: loads) w1 ∧
        Play.Reaches call mods
          ⟨f :: loads, mods.body f.question (begun w f.question.1), next :: callers⟩
          ⟨f :: loads, .done r w1, next :: callers⟩ := by
      rw [← hid] at hnew hbegun
      by_cases hmem : f.question.1 ∈ mods.ids
      · exact hinner f hmem hnew _ _ _ hbegun
          (hmods.body (hbegun.apart f List.mem_cons_self) _ hbegun.ready)
      · obtain ⟨e, w1, hbody, hspares⟩ := mods.body_missing hmem hbegun.ready
        exact ⟨_, w1, .thrown e, hbegun.spares hspares, hbody ▸ .refl _⟩
    obtain ⟨v, w', hends, hv, hrest⟩ := hdone.ends hr
    have hstep : Play.step call mods ⟨loads, .require name w next, callers⟩ =
        some ⟨f :: loads, mods.body f.question (begun w f.question.1), next :: callers⟩ := by
      rw [Play.step_miss hc, hload, hid]
    refine ⟨v, w', hv, hrest, .of_step hstep (hreach.trans ?_)⟩
    exact .of_step (Play.step_ends hends) (.refl _)

/-- A require fails at once when its module has neither an entry nor a body. -/
theorem require_fails {loads : List Load} {w : World} (hprogress : InProgress loads w)
    {name : String} (hc : cached w (w.registry.resolve name) = none)
    (hid : w.registry.resolve name ∉ mods.ids)
    (next : Except Stop Value → World → Course Unit)
    (callers : List (Except Stop Value → World → Course Unit)) :
    ∃ e w', Play.after call mods ⟨loads, .require name w next, callers⟩ 2 =
      some ⟨loads, next (.error (.thrown e)) w', callers⟩ := by
  obtain ⟨-, hbegun⟩ := hprogress.begin hc
  obtain ⟨e, w1, hbody, -⟩ :=
    Assignment.body_missing (q := (newLoad w (w.registry.resolve name)).question) hid hbegun.ready
  have hends : (newLoad w (w.registry.resolve name)).next (.error (.thrown e)) w1 =
      .done (.error (.thrown e)) (evicted w1 (w.registry.resolve name)) := rfl
  refine ⟨e, evicted w1 (w.registry.resolve name), ?_⟩
  simp only [Play.after, Play.step_miss hc, hbody, Play.step_ends hends, Option.bind_some]

/-- Code comes to its end, whatever is in progress. The induction is on the modules that are free;
inside, it is on the requires of the code. -/
theorem comesToEnd (call : Call) (hmods : mods.Tame) (loads : List Load) :
    ComesToEnd call mods loads := by
  induction hn : (free mods loads).card using Nat.strong_induction_on generalizing loads with
  | _ n ih =>
    subst hn
    have hinner : ∀ f : Load, f.question.1 ∈ mods.ids →
        f.question.1 ∉ loads.map (·.question.1) → ComesToEnd call mods (f :: loads) :=
      fun f hid hnew => ih _ (card_free_cons hid hnew) _ rfl
    intro callers w c hprogress htame
    induction htame with
    | done hr hspares => exact ⟨_, _, hr, hprogress.spares hspares, .refl _⟩
    | require hspares _ hnext =>
      obtain ⟨r, w1, hr, hrest, hreach⟩ :=
        require_comes_back call (hprogress.spares hspares) hmods _ _ callers hinner
      obtain ⟨r', w', hr', hrest', hreach'⟩ := hnext r w1 hr hrest.ready hrest
      exact ⟨r', w', hr', hrest', hreach.trans hreach'⟩

/-- No more bodies are running than there are modules. -/
theorem Play.Inv.running_bounded {p : Play} (h : p.Inv) (mods : Assignment) :
    (p.running mods).Nodup ∧ (p.running mods).length ≤ mods.ids.toFinset.card := by
  obtain ⟨w, hprogress, -⟩ := h.progress
  have hnodup : (p.running mods).Nodup := hprogress.nodup.filter _
  refine ⟨hnodup, ?_⟩
  rw [← List.toFinset_card_of_nodup hnodup]
  refine Finset.card_le_card fun id hid => ?_
  simp only [Play.running, List.mem_toFinset, List.mem_filter] at hid
  simpa using hid.2

/-- A run that comes to a halt is a part of every run from the same state. -/
theorem Play.reaches_halt {p q halt : Play} {n : Nat} (hq : p.after call mods n = some q)
    (hhalt : p.Reaches call mods halt) (hnone : halt.step call mods = none) :
    q.Reaches call mods halt := by
  obtain ⟨m, hm⟩ := hhalt
  rcases Nat.le_total n m with hle | hle
  · refine ⟨m - n, ?_⟩
    rw [← Nat.add_sub_cancel' hle, after_add, hq] at hm
    exact hm
  · rw [← Nat.add_sub_cancel' hle, after_add, hm, Option.bind_some] at hq
    cases hk : n - m with
    | zero =>
      rw [hk] at hq
      exact Option.some.inj hq ▸ .refl _
    | succ k =>
      rw [hk, after, hnone] at hq
      cases hq

/-- **Nesting.** A guest with modules requires them, from any cache that it begins with, and the
modules require each other as they like. The require rule is that of the engine, and what the engine
runs for a module is code of this kind. At any moment no body is running inside itself, and no more
bodies are running inside one another than there are identities with a body. Every require comes
back with a value or an exception, at once when its module has neither an entry nor a body, and the
guest comes to its end. -/
theorem requires_come_back (call : Call) (mods : Assignment) (hmods : mods.Tame) (w : World)
    (hw : CacheReady w) (main : Code Unit) (hmain : main.Tame) (n : Nat) (p : Play)
    (hp : (Play.start w main).after call mods n = some p) :
    (∀ name, Carries (fun q : String × Ref => runModule call q.1 q.2) (requireTalk call name)
      ((moduleCache call).require Stop name)) ∧
    (∀ q, Performs (callRequire call) (moduleCode call q) (runModule call q.1 q.2)) ∧
    (p.running mods).Nodup ∧
    (p.running mods).length ≤ mods.ids.toFinset.card ∧
    (∀ name v next, p.body = .require name v next →
      (∃ r v', Ordinary r ∧ p.Reaches call mods ⟨p.loads, next r v', p.callers⟩) ∧
      (cached v (v.registry.resolve name) = none → v.registry.resolve name ∉ mods.ids →
        ∃ e v', p.after call mods 2 =
          some ⟨p.loads, next (.error (.thrown e)) v', p.callers⟩)) ∧
    ∃ r v, Ordinary r ∧ p.Reaches call mods ⟨[], .done r v, []⟩ := by
  have hinv := (Play.Inv.start hw hmain).after hmods hp
  obtain ⟨hnodup, hbound⟩ := hinv.running_bounded mods
  refine ⟨requireTalk_carries call, moduleCode_performs call, hnodup, hbound,
    fun name v next hbody => ?_, ?_⟩
  · obtain ⟨loads, body, callers⟩ := p
    obtain rfl : body = .require name v next := hbody
    have hnow : InProgress loads v := by
      obtain ⟨w0, hprogress, htame⟩ := hinv.progress
      cases htame with
      | require hspares _ => exact hprogress.spares hspares
    obtain ⟨r, v', hr, -, hreach⟩ := require_comes_back call hnow hmods name next callers
      fun f _ _ => comesToEnd call hmods _
    exact ⟨⟨r, v', hr, hreach⟩, fun hc hid => require_fails hnow hc hid next callers⟩
  · obtain ⟨r, v, hr, -, hreach⟩ :=
      comesToEnd call hmods [] [] w (main w) (.nil hw) (hmain w hw)
    exact ⟨r, v, hr, Play.reaches_halt hp hreach rfl⟩

/-! ## A cycle of modules that fail -/

/-- Two modules. The first one requires the second, whether it fails or not, and then throws; the
second one requires the first, replaces its own exports, and throws. -/
def failingCycle : Assignment :=
  [("a", fun _ => do
      let _ ← Code.tryRequire "b"
      Code.plain (raise "Error" "late")),
    ("b", fun entry => do
      let _ ← Code.require "a"
      Code.plain (assign entry "exports" .null)
      Code.plain (raise "Error" "broken"))]

/-- Requires the first module until it fails for the second time. -/
def requireTwice : Code Unit := do
  let _ ← Code.tryRequire "a"
  let _ ← Code.require "a"
  pure ()

theorem failingCycle_tame : failingCycle.Tame := by
  intro m hm entry hentry
  rcases List.mem_cons.mp hm with rfl | hm
  · exact (Code.Tame.tryRequire "b").bind fun _ => tame_raise _ _
  · cases List.mem_singleton.mp hm
    exact (Code.Tame.require "a").bind fun _ =>
      (Code.Tame.assign hentry "exports" .null).bind fun _ => tame_raise _ _

theorem requireTwice_tame : requireTwice.Tame :=
  (Code.Tame.tryRequire "a").bind fun _ => (Code.Tame.require "a").bind fun _ => .pure ()

/-- The second body runs inside the first one. They are all that there is, and the guest comes to
its end. -/
theorem requires_come_back_cycle :
    failingCycle.Tame ∧ CacheReady (newWorld bareSurroundings {}) ∧ requireTwice.Tame ∧
    ∃ p, (Play.start (newWorld bareSurroundings {}) requireTwice).after idleCall failingCycle 2 =
        some p ∧
      p.running failingCycle = ["b", "a"] ∧
      (p.running failingCycle).length ≤ failingCycle.ids.toFinset.card ∧
      ∃ r v, Ordinary r ∧ p.Reaches idleCall failingCycle ⟨[], .done r v, []⟩ := by
  have hready := (newWorld_kept bareSurroundings {}).ready
  obtain ⟨p, hp, hrunning⟩ := Option.map_eq_some_iff.mp (show
    ((Play.start (newWorld bareSurroundings {}) requireTwice).after idleCall failingCycle 2).map
      (·.running failingCycle) = some ["b", "a"] by decide +kernel)
  obtain ⟨-, -, -, hbound, -, hend⟩ := requires_come_back idleCall failingCycle failingCycle_tame
    (newWorld bareSurroundings {}) hready requireTwice requireTwice_tame 2 p hp
  exact ⟨failingCycle_tame, hready, requireTwice_tame, p, hp, hrunning, hbound, hend⟩

end GuestLint.Guest
