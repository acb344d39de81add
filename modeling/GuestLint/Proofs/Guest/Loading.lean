import GuestLint.Proofs.Guest.ModuleCache

/-!
# Loading modules

A module's body runs in the middle of its load, and it may require further modules, the module
itself included. Here a require is a dialogue that asks for bodies, and a body is whatever the
guest does until it answers: it requires modules by name, replaces its exports, changes anything
but the entries of modules that are loaded, and returns or throws.

* `requireTalk_carries`: with the bodies of the registry for answers, the dialogue is the require
  of the engine.
* `Kept.step`: what every move keeps of the cache.
* `Settled.step`: what every move keeps of a module that is loaded.
* `require_once`: no module is loaded while it is being loaded, the cache holds the modules whose
  latest load succeeded, and a loaded module is required without a load.
-/
namespace GuestLint.Guest

open Dialogue (Talk Stage Conf Move)

/-! ## Requiring as a dialogue -/

/-- The module cache with bodies that are asked for, by the identity and the entry of a module. -/
def cacheTalk (call : Call) : Modules.Cache (Talk World (String × Ref) Stop) Ref Value where
  resolve name := hosted ((moduleCache call).resolve name)
  lookup id := hosted ((moduleCache call).lookup id)
  fresh id := hosted ((moduleCache call).fresh id)
  store id entry := hosted ((moduleCache call).store id entry)
  evict id := hosted ((moduleCache call).evict id)
  run id entry := Talk.ask (id, entry)
  markLoaded entry := hosted ((moduleCache call).markLoaded entry)
  exports entry := hosted ((moduleCache call).exports entry)

def requireTalk (call : Call) (name : String) : Talk World (String × Ref) Stop Value :=
  (cacheTalk call).require Stop name

/-- With the bodies of the registry for answers, the dialogue does what the engine does. -/
theorem requireTalk_carries (call : Call) (name : String) :
    Carries (fun q : String × Ref => runModule call q.1 q.2) (requireTalk call name)
      ((moduleCache call).require Stop name) := by
  have hbody : ∀ (id : String) (entry : Ref),
      Carries (fun q : String × Ref => runModule call q.1 q.2)
        (tryCatchThe Stop ((cacheTalk call).run id entry) fun e => do
          (cacheTalk call).evict id
          throwThe Stop e)
        (tryCatchThe Stop ((moduleCache call).run id entry) fun e => do
          (moduleCache call).evict id
          throwThe Stop e) := fun id entry =>
    Carries.tryCatch (Carries.ask (id, entry)) fun e => (Carries.hosted _).bind fun _ => .throw e
  refine (Carries.hosted _).bind fun id => (Carries.hosted _).bind fun found => ?_
  cases found with
  | some entry => exact .hosted _
  | none =>
    refine (Carries.hosted _).bind fun entry => (Carries.hosted _).bind fun _ => ?_
    exact (hbody id entry).bind fun _ => (Carries.hosted _).bind fun _ => .hosted _

/-- The `require` of a guest is the rule, at a place of its own. -/
theorem requireModule_text (call : Call) (name : String) :
    requireModule call (.text name) =
      atPlace requireFrame ((moduleCache call).require Stop name) := by
  have htext : shownText call (.text name) = pure name := rfl
  rw [requireModule, htext, pure_bind]

/-- What follows the body of a module. -/
def afterBody (q : String × Ref) : Except Stop Unit → World → Stage World (String × Ref) Stop Value
  | .ok _, w => .done (.ok (exportsOf (completed w q.2) q.2)) (completed w q.2)
  | .error e, w => .done (.error e) (evicted w q.1)

section
variable (call : Call) {w : World} {name : String}

/-- A module that has an entry is not loaded. -/
theorem require_hit {entry : Ref} (h : cached w (w.registry.resolve name) = some entry) :
    requireTalk call name w = .done (.ok (exportsOf w entry)) w := by
  refine (hosted_bind_run (run_resolve call w name) _).trans ?_
  refine (hosted_bind_run (run_lookup call w _) _).trans ?_
  rw [h]
  exact hosted_run (run_exports call w entry)

/-- A module without an entry gets one, and its body is asked for. -/
theorem require_miss (h : cached w (w.registry.resolve name) = none) :
    requireTalk call name w =
      .ask (w.registry.resolve name, w.heap.size + 1) (begun w (w.registry.resolve name))
        (afterBody (w.registry.resolve name, w.heap.size + 1)) := by
  refine (hosted_bind_run (run_resolve call w name) _).trans ?_
  refine (hosted_bind_run (run_lookup call w _) _).trans ?_
  rw [h]
  refine (hosted_bind_run (run_fresh call w _) _).trans ?_
  refine (hosted_bind_run (run_store call w _) _).trans ?_
  refine congrArg (Stage.ask _ _) ?_
  funext r s
  cases r with
  | ok a =>
    show ((cacheTalk call).markLoaded (w.heap.size + 1) >>= fun _ =>
      (cacheTalk call).exports (w.heap.size + 1)) s = _
    refine (hosted_bind_run (run_markLoaded call s _) _).trans ?_
    exact hosted_run (run_exports call _ _)
  | error e =>
    show ((cacheTalk call).evict (w.registry.resolve name) >>= fun _ => throw e) s = _
    exact hosted_bind_run (run_evict call s _) _

end

/-! ## Guests that load modules -/

abbrev LoadConf := Conf World (String × Ref) Stop Value

abbrev LoadEvent := Dialogue.Event String (String × Ref) Stop Value

/-- The identities of the modules that are being loaded, innermost first. -/
def loading (c : LoadConf) : List String := c.questions.map (·.1)

/-- How the latest load of a module that has come to its end ended, if there is one. -/
def latest (id : String) (events : List LoadEvent) : Option Bool :=
  (events.filterMap fun
    | .answered q r => if q.1 = id then some r.isOk else none
    | _ => none).getLast?

/-- What a guest leaves alone between its requires: the aliases, the cache, and the entries in the
cache, of which it may replace the exports while the module is being loaded. -/
structure Respects (qs : List (String × Ref)) (w w' : World) : Prop where
  aliases : w'.registry.aliases = w.registry.aliases
  size : w.heap.size ≤ w'.heap.size
  cache : w'.heap.at_ Place.moduleCache = w.heap.at_ Place.moduleCache
  kind : ∀ id entry, cached w id = some entry →
    (w'.heap.at_ entry).kind = (w.heap.at_ entry).kind
  loaded : ∀ id entry, cached w id = some entry →
    (w'.heap.at_ entry).field "loaded" = (w.heap.at_ entry).field "loaded"
  hasExports : ∀ id entry, cached w id = some entry →
    ((w.heap.at_ entry).field "exports").isSome → ((w'.heap.at_ entry).field "exports").isSome
  exports : ∀ id entry, cached w id = some entry → id ∉ qs.map (·.1) →
    (w'.heap.at_ entry).field "exports" = (w.heap.at_ entry).field "exports"

abbrev LoadMove := Move String World (String × Ref) Stop Respects

theorem latest_append (id : String) (es es' : List LoadEvent) :
    latest id (es ++ es') = (latest id es').or (latest id es) := by
  simp [latest, List.filterMap_append, List.getLast?_append]

theorem latest_answered (id : String) (q : String × Ref) (r : Except Stop Unit)
    (v : Except Stop Value) :
    latest id [.answered q r, .ended v] = if q.1 = id then some r.isOk else none := by
  by_cases h : q.1 = id <;> simp [latest, h]

theorem loading_eq (c : LoadConf) : loading c = c.frames.map (·.question.1) := by
  simp [loading, Conf.questions]

/-! ### What every move keeps -/

/-- The cache holds the modules that are being loaded and those whose latest load succeeded; it
marks the latter as loaded. -/
structure Kept (aliases : List (String × String)) (c : LoadConf) (events : List LoadEvent) :
    Prop where
  aliases : c.state.registry.aliases = aliases
  ready : CacheReady c.state
  next : ∀ f ∈ c.frames, f.next = afterBody f.question
  nodup : (loading c).Nodup
  current : ∀ q ∈ c.questions, cached c.state q.1 = some q.2
  cached_iff : ∀ id, (cached c.state id).isSome ↔ id ∈ loading c ∨ latest id events = some true
  entry : ∀ id r, cached c.state id = some r → IsEntry c.state r (decide (id ∉ loading c))
  apart : ∀ id id' r, cached c.state id = some r → cached c.state id' = some r → id = id'

namespace Kept

variable {aliases : List (String × String)} {c : LoadConf} {events : List LoadEvent}

/-- A require of a module with an entry changes nothing. -/
theorem hit (k : Kept aliases c events) (name : String) (v : Value) :
    Kept aliases c (events ++ [.called name, .ended (.ok v)]) :=
  { k with
    cached_iff := fun id => by
      rw [latest_append]
      exact k.cached_iff id }

/-- A load begins. -/
theorem miss (k : Kept aliases c events) {id : String} (hid : cached c.state id = none)
    (name : String) :
    Kept aliases
      ⟨begun c.state id, ⟨(id, c.state.heap.size + 1), afterBody (id, c.state.heap.size + 1)⟩ ::
        c.frames⟩
      (events ++ [.called name, .asked (id, c.state.heap.size + 1)]) := by
  have hnew : id ∉ loading c := fun hm => by
    have := (k.cached_iff id).mpr (.inl hm)
    simp [hid] at this
  have hold : ∀ n r, cached c.state n = some r → n ≠ id := fun n r hn heq => by
    rw [heq, hid] at hn
    cases hn
  constructor
  · exact k.aliases
  · exact begun_ready k.ready id
  · intro f hf
    rcases List.mem_cons.mp hf with rfl | hf
    · rfl
    · exact k.next f hf
  · exact List.nodup_cons.mpr ⟨hnew, k.nodup⟩
  · intro q hq
    rw [begun_cached k.ready]
    rcases List.mem_cons.mp hq with rfl | hq
    · exact if_pos rfl
    · rw [if_neg (hold q.1 q.2 (k.current q hq))]
      exact k.current q hq
  · intro n
    rw [begun_cached k.ready, latest_append]
    by_cases h : n = id
    · simp [h, loading, Conf.questions]
    · have := k.cached_iff n
      simp only [loading, Conf.questions, List.map_cons, List.mem_cons, h, false_or,
        if_false] at this ⊢
      exact this
  · intro n r hn
    rcases begun_cached_cases k.ready hn with ⟨rfl, rfl⟩ | ⟨hne, hbefore⟩
    · simpa [loading, Conf.questions] using begun_entry k.ready n
    · have he := k.entry n r hbefore
      have hkeep : IsEntry (begun c.state id) r _ :=
        he.congr (by simp [begun]; omega) (begun_at he.lt_size he.ne_cache)
      simpa [loading, Conf.questions, hne] using hkeep
  · intro n n' r hn hn'
    -- the new entry is behind all others in the heap
    have hfresh : ∀ m, cached c.state m ≠ some (c.state.heap.size + 1) := fun m hm =>
      absurd (k.entry m _ hm).lt_size (by simp)
    rcases begun_cached_cases k.ready hn with ⟨rfl, rfl⟩ | ⟨-, hbefore⟩
    · rcases begun_cached_cases k.ready hn' with ⟨rfl, -⟩ | ⟨-, hbefore'⟩
      · rfl
      · exact absurd hbefore' (hfresh n')
    · rcases begun_cached_cases k.ready hn' with ⟨rfl, rfl⟩ | ⟨-, hbefore'⟩
      · exact absurd hbefore (hfresh n)
      · exact k.apart n n' r hbefore hbefore'

section
variable {f : Dialogue.Frame World (String × Ref) Stop Value}
  {rest : List (Dialogue.Frame World (String × Ref) Stop Value)}

/-- The innermost load is of a module that no other load is of. -/
theorem innermost (k : Kept aliases c events) (hc : c.frames = f :: rest) :
    cached c.state f.question.1 = some f.question.2 ∧
      loading c = f.question.1 :: rest.map (·.question.1) ∧
      f.question.1 ∉ rest.map (·.question.1) ∧ (rest.map (·.question.1)).Nodup := by
  have hloading : loading c = f.question.1 :: rest.map (·.question.1) := by
    rw [loading_eq, hc, List.map_cons]
  have hnodup := k.nodup
  rw [hloading, List.nodup_cons] at hnodup
  exact ⟨k.current f.question (by simp [Conf.questions, hc]), hloading, hnodup⟩

theorem current_rest (k : Kept aliases c events) (hc : c.frames = f :: rest) {q : String × Ref}
    (hq : q ∈ rest.map (·.question)) : cached c.state q.1 = some q.2 :=
  k.current q (by simpa [Conf.questions, hc] using .inr (by simpa using hq))

/-- A body returns, and its load is over. -/
theorem returned (k : Kept aliases c events) (hc : c.frames = f :: rest) (v : Except Stop Value) :
    Kept aliases ⟨completed c.state f.question.2, rest⟩
      (events ++ [.answered f.question (.ok ()), .ended v]) := by
  obtain ⟨hcur, hloading, hnew, hnodup⟩ := k.innermost hc
  have hentry := k.entry _ _ hcur
  have hcached := completed_cached k.ready hentry
  constructor
  · exact k.aliases
  · exact completed_ready k.ready hentry
  · exact fun g hg => k.next g (hc ▸ List.mem_cons_of_mem _ hg)
  · rw [loading_eq]
    exact hnodup
  · intro q hq
    rw [hcached]
    exact k.current_rest hc hq
  · intro n
    rw [hcached, k.cached_iff n, latest_append, latest_answered, hloading, loading_eq,
      List.mem_cons]
    by_cases h : f.question.1 = n
    · simp [h, Except.isOk, Except.toBool]
    · simp [h, Ne.symm h]
  · intro n r hn
    rw [hcached] at hn
    rw [loading_eq]
    by_cases h : n = f.question.1
    · subst h
      rw [hcur] at hn
      cases hn
      simpa [hnew] using completed_entry hentry
    · have hne : r ≠ f.question.2 := fun heq => h (k.apart n _ r hn (heq ▸ hcur))
      have he := k.entry n r hn
      have hkeep : IsEntry (completed c.state f.question.2) r _ :=
        he.congr (by simp [completed]) (completed_at hne)
      simpa [hloading, h] using hkeep
  · intro n n' r hn hn'
    rw [hcached] at hn hn'
    exact k.apart n n' r hn hn'

/-- A body throws, and its module has no entry any more. -/
theorem threw (k : Kept aliases c events) (hc : c.frames = f :: rest) (e : Stop)
    (v : Except Stop Value) :
    Kept aliases ⟨evicted c.state f.question.1, rest⟩
      (events ++ [.answered f.question (.error e), .ended v]) := by
  obtain ⟨-, hloading, hnew, hnodup⟩ := k.innermost hc
  constructor
  · exact k.aliases
  · exact evicted_ready k.ready _
  · exact fun g hg => k.next g (hc ▸ List.mem_cons_of_mem _ hg)
  · rw [loading_eq]
    exact hnodup
  · intro q hq
    rw [evicted_cached k.ready, if_neg, k.current_rest hc hq]
    intro heq
    obtain ⟨g, hg, hgq⟩ := List.mem_map.mp hq
    exact hnew (List.mem_map.mpr ⟨g, hg, (congrArg _ hgq).trans heq⟩)
  · intro n
    rw [evicted_cached k.ready, latest_append, latest_answered, loading_eq]
    by_cases h : f.question.1 = n
    · subst h
      simpa [Except.isOk, Except.toBool] using hnew
    · rw [if_neg (Ne.symm h), if_neg h, k.cached_iff n, hloading, List.mem_cons]
      simp [Ne.symm h]
  · intro n r hn
    obtain ⟨hne, hn⟩ := evicted_cached_cases k.ready hn
    have he := k.entry n r hn
    have hkeep : IsEntry (evicted c.state f.question.1) r _ :=
      he.congr (by simp [evicted]) (evicted_at he.ne_cache)
    rw [loading_eq]
    simpa [hloading, hne] using hkeep
  · intro n n' r hn hn'
    exact k.apart n n' r (evicted_cached_cases k.ready hn).2 (evicted_cached_cases k.ready hn').2

end

/-- What the guest does on its own changes nothing that counts. -/
theorem between (k : Kept aliases c events) {w : World} (h : Respects c.questions c.state w) :
    Kept aliases { c with state := w } events := by
  have hcached : ∀ n, cached w n = cached c.state n := cached_congr h.cache k.ready
  constructor
  · exact h.aliases.trans k.aliases
  · exact ⟨Nat.lt_of_lt_of_le k.ready.lt_size h.size, h.cache ▸ k.ready.plain⟩
  · exact k.next
  · exact k.nodup
  · exact fun q hq => (hcached q.1).trans (k.current q hq)
  · intro n
    rw [hcached]
    exact k.cached_iff n
  · intro n r hn
    replace hn := (hcached n).symm.trans hn
    have he := k.entry n r hn
    obtain ⟨v, hv⟩ := he.exports
    refine ⟨Nat.lt_of_lt_of_le he.lt_size h.size, he.ne_cache, ?_, ?_, ?_⟩
    · exact (h.kind n r hn).trans he.plain
    · exact Option.isSome_iff_exists.mp (h.hasExports n r hn (by simp [hv]))
    · exact (h.loaded n r hn).trans he.loaded
  · intro n n' r hn hn'
    exact k.apart n n' r ((hcached n).symm.trans hn) ((hcached n').symm.trans hn')

/-- A require begins a load, or it changes nothing. -/
theorem step (k : Kept aliases c events) (call : Call) (m : LoadMove) :
    Kept aliases (c.step (requireTalk call) m).1 (events ++ (c.step (requireTalk call) m).2) := by
  cases m with
  | call name =>
    cases hfound : cached c.state (c.state.registry.resolve name) with
    | some entry =>
      simp only [Conf.step, require_hit call hfound, Conf.settle]
      exact k.hit name _
    | none =>
      simp only [Conf.step, require_miss call hfound, Conf.settle]
      exact k.miss hfound name
  | answer r =>
    cases hc : c.frames with
    | nil => simpa [Conf.step, hc] using k
    | cons f rest =>
      have hnext := k.next f (hc ▸ List.mem_cons_self)
      cases r with
      | ok a =>
        simp only [Conf.step, hc, hnext, afterBody, Conf.settle]
        exact k.returned hc _
      | error e =>
        simp only [Conf.step, hc, hnext, afterBody, Conf.settle]
        exact k.threw hc e _
  | between f spares =>
    simp only [Conf.step, List.append_nil]
    exact k.between (spares _ _)

theorem after (k : Kept aliases c events) (call : Call) (ms : List LoadMove) :
    Kept aliases (c.after (requireTalk call) ms) (events ++ c.events (requireTalk call) ms) :=
  Conf.run_inv (fun _ _ k m => k.step call m) k ms

end Kept

/-! ### What bodies may do -/

/-- A body may set a property of any object that is no entry and not the cache. -/
theorem respects_set (qs : List (String × Ref)) {w : World} {r : Ref}
    (hcache : r ≠ Place.moduleCache) (hentry : ∀ id, cached w id ≠ some r) (name : String)
    (v : Value) : Respects qs w (run w (assign r name v)).2 := by
  have hkeep : ∀ id entry, cached w id = some entry →
      (run w (assign r name v)).2.heap.at_ entry = w.heap.at_ entry := fun id entry hid => by
    have hne : entry ≠ r := fun heq => hentry id (heq ▸ hid)
    exact Heap.at_modify_ne _ hne _
  refine ⟨rfl, ?_, Heap.at_modify_ne _ hcache.symm _, ?_, ?_, ?_, ?_⟩
  · exact Nat.le_of_eq (Heap.size_modify ..).symm
  · exact fun id entry hid => by rw [hkeep id entry hid]
  · exact fun id entry hid => by rw [hkeep id entry hid]
  · exact fun id entry hid h => by rwa [hkeep id entry hid]
  · exact fun id entry hid _ => by rw [hkeep id entry hid]

/-- A body may replace the exports of a module that is being loaded. -/
theorem Kept.respects_replace {aliases : List (String × String)} {c : LoadConf}
    {events : List LoadEvent} (k : Kept aliases c events) {q : String × Ref}
    (hq : q ∈ c.questions) (v : Value) :
    Respects c.questions c.state (run c.state (assign q.2 "exports" v)).2 := by
  have hcur := k.current q hq
  have he := k.entry q.1 q.2 hcur
  have hself : (run c.state (assign q.2 "exports" v)).2.heap.at_ q.2 =
      (c.state.heap.at_ q.2).put "exports" v := Heap.at_modify_self _ he.lt_size _
  have hother : ∀ entry, entry ≠ q.2 →
      (run c.state (assign q.2 "exports" v)).2.heap.at_ entry = c.state.heap.at_ entry :=
    fun entry hne => Heap.at_modify_ne _ hne _
  refine ⟨rfl, ?_, hother _ he.ne_cache.symm, ?_, ?_, ?_, ?_⟩
  · exact Nat.le_of_eq (Heap.size_modify ..).symm
  · intro id entry _
    by_cases h : entry = q.2
    · rw [h, hself, Object.put_kind]
    · rw [hother entry h]
  · intro id entry _
    by_cases h : entry = q.2
    · rw [h, hself, Object.field_put, if_neg (by decide)]
    · rw [hother entry h]
  · intro id entry _ hex
    by_cases h : entry = q.2
    · rw [h, hself, Object.field_put, if_pos rfl]
      rfl
    · rwa [hother entry h]
  · intro id entry hid hover
    have hne : entry ≠ q.2 := fun heq => by
      have := k.apart id q.1 entry hid (heq ▸ hcur)
      exact hover (this ▸ List.mem_map_of_mem hq)
    rw [hother entry hne]

/-! ### Modules that are loaded -/

/-- A module is loaded, with its exports. -/
structure Settled (c : LoadConf) (id : String) (v : Value) : Prop where
  finished : id ∉ loading c
  kept : ∃ entry, cached c.state id = some entry ∧ exportsOf c.state entry = v

section
variable {aliases : List (String × String)} {c c' : LoadConf} {events events' : List LoadEvent}
  {id : String} {v : Value}

theorem Settled.congr (h : Settled c id v) (k : Kept aliases c events)
    (k' : Kept aliases c' events') (hover : id ∉ loading c')
    (hcached : cached c'.state id = cached c.state id)
    (hexports : ∀ entry, cached c.state id = some entry →
      (c'.state.heap.at_ entry).field "exports" = (c.state.heap.at_ entry).field "exports") :
    Settled c' id v := by
  obtain ⟨entry, hentry, hv⟩ := h.kept
  refine ⟨hover, entry, hcached.trans hentry, ?_⟩
  exact ((k.entry id entry hentry).exportsOf_congr (k'.entry id entry (hcached.trans hentry))
    (hexports entry hentry)).trans hv

/-- A module that is loaded stays loaded, and keeps its exports. -/
theorem Settled.step (h : Settled c id v) (k : Kept aliases c events) (call : Call)
    (m : LoadMove) : Settled (c.step (requireTalk call) m).1 id v := by
  have k' := k.step call m
  obtain ⟨entry, hentry, -⟩ := h.kept
  have he := k.entry id entry hentry
  cases m with
  | call name =>
    cases hfound : cached c.state (c.state.registry.resolve name) with
    | some entry =>
      simp only [Conf.step, require_hit call hfound, Conf.settle] at k' ⊢
      exact h
    | none =>
      simp only [Conf.step, require_miss call hfound, Conf.settle] at k' ⊢
      have hne : id ≠ c.state.registry.resolve name := fun heq => by
        rw [← heq, hentry] at hfound
        cases hfound
      refine h.congr k k' ?_ ?_ fun r hr => ?_
      · have hover := h.finished
        rw [loading_eq] at hover ⊢
        exact fun hm => (List.mem_cons.mp hm).elim hne hover
      · rw [begun_cached k.ready, if_neg hne]
      · have hr' := k.entry id r hr
        rw [begun_at hr'.lt_size hr'.ne_cache]
  | answer r =>
    cases hc : c.frames with
    | nil => simpa [Conf.step, hc] using h
    | cons f rest =>
      obtain ⟨hcur, hloading, -, -⟩ := k.innermost hc
      have hnext := k.next f (hc ▸ List.mem_cons_self)
      have hover := h.finished
      rw [hloading, List.mem_cons, not_or] at hover
      have hrest : ∀ w : World, id ∉ loading ⟨w, rest⟩ := fun w => by
        rw [loading_eq]
        exact hover.2
      cases r with
      | ok a =>
        simp only [Conf.step, hc, hnext, afterBody, Conf.settle] at k' ⊢
        refine h.congr k k' (hrest _) (completed_cached k.ready (k.entry _ _ hcur) id) ?_
        intro r hr
        have hne : r ≠ f.question.2 := fun heq => hover.1 (k.apart id _ r hr (heq ▸ hcur))
        rw [completed_at hne]
      | error e =>
        simp only [Conf.step, hc, hnext, afterBody, Conf.settle] at k' ⊢
        refine h.congr k k' (hrest _) ?_ fun r hr => ?_
        · rw [evicted_cached k.ready, if_neg hover.1]
        · rw [evicted_at (k.entry id r hr).ne_cache]
  | between f spares =>
    have hr := spares c.questions c.state
    exact h.congr k k' h.finished (cached_congr hr.cache k.ready id) fun r hcr =>
      hr.exports id r hcr h.finished

theorem Settled.after (h : Settled c id v) (k : Kept aliases c events) (call : Call)
    (ms : List LoadMove) : Settled (c.after (requireTalk call) ms) id v := by
  have hstep : ∀ (c : LoadConf) (past : List LoadEvent), Kept aliases c past ∧ Settled c id v →
      ∀ m : LoadMove,
        Kept aliases (c.step (requireTalk call) m).1 (past ++ (c.step (requireTalk call) m).2) ∧
          Settled (c.step (requireTalk call) m).1 id v :=
    fun _ _ ⟨k, h⟩ m => ⟨k.step call m, h.step k call m⟩
  exact (Conf.run_inv hstep ⟨k, h⟩ ms).2

/-- A loaded module is required without a load. -/
theorem Settled.require (h : Settled c id v) (call : Call) {name : String}
    (hname : c.state.registry.resolve name = id) :
    c.step (requireTalk call) (.call name : LoadMove) = (c, [.called name, .ended (.ok v)]) := by
  obtain ⟨entry, hentry, rfl⟩ := h.kept
  subst hname
  simp only [Conf.step, require_hit call hentry, Conf.settle]

/-- When its body returns, the module is loaded. -/
theorem Kept.settles (k : Kept aliases c events) (call : Call)
    {f : Dialogue.Frame World (String × Ref) Stop Value}
    {rest : List (Dialogue.Frame World (String × Ref) Stop Value)} (hc : c.frames = f :: rest) :
    ∃ v, (c.step (requireTalk call) (.answer (.ok ()) : LoadMove)).2 =
        [.answered f.question (.ok ()), .ended (.ok v)] ∧
      Settled (c.step (requireTalk call) (.answer (.ok ()) : LoadMove)).1 f.question.1 v := by
  obtain ⟨hcur, -, hnew, -⟩ := k.innermost hc
  have hnext := k.next f (hc ▸ List.mem_cons_self)
  simp only [Conf.step, hc, hnext, afterBody, Conf.settle]
  refine ⟨_, rfl, ?_, f.question.2, ?_, rfl⟩
  · rw [loading_eq]
    exact hnew
  · exact (completed_cached k.ready (k.entry _ _ hcur) _).trans hcur

end

/-! ## Registries and new worlds -/

/-- A module that is registered under a name. -/
inductive Registration where
  | native (name : String) (module : Native)
  | builtin (name : String) (module : Native)

namespace Registry

def enter (g : Registry) : Registration → Registry
  | .native name module => g.registerNative name module
  | .builtin name module => g.registerBuiltin name module

/-- The registry of some modules and of a loader for all others. -/
def ofList (loader : Modules.SourceLoader) (regs : List Registration) : Registry :=
  regs.foldl enter { loader := loader }

theorem namespaced_injective {a b : String} (h : namespaced a = namespaced b) : a = b := by
  have := congrArg String.toList h
  simpa [namespaced, String.toList_append, String.toList_inj] using this

theorem lookup_enter_builtin (g : Registry) (n : String) (m : Native) (name : String) :
    (g.enter (.builtin n m)).aliases.lookup name =
      if name = namespaced n then some n else g.aliases.lookup name := by
  show ((namespaced n, n) :: (g.registerNative n m).aliases.filter (·.1 ≠ namespaced n)).lookup
    name = _
  rw [lookup_cons, lookup_filter_ne]
  split <;> rfl

/-- Only namespaced names are aliases. -/
theorem lookup_foldl_bare (g : Registry) (regs : List Registration) {name : String}
    (hname : ∀ n, name ≠ namespaced n) :
    (regs.foldl enter g).aliases.lookup name = g.aliases.lookup name := by
  induction regs generalizing g with
  | nil => rfl
  | cons reg regs ih =>
    rw [List.foldl_cons, ih]
    cases reg with
    | native n m => rfl
    | builtin n m => rw [lookup_enter_builtin, if_neg (hname n)]

theorem lookup_foldl_namespaced (g : Registry) (regs : List Registration) {n : String}
    (h : g.aliases.lookup (namespaced n) = some n ∨ ∃ m, .builtin n m ∈ regs) :
    (regs.foldl enter g).aliases.lookup (namespaced n) = some n := by
  induction regs generalizing g with
  | nil => simpa using h
  | cons reg regs ih =>
    refine ih (g.enter reg) ?_
    cases reg with
    | native k m => simpa [enter, registerNative] using h
    | builtin k m =>
      rw [lookup_enter_builtin]
      by_cases hk : n = k
      · exact .inl (by rw [if_pos (congrArg _ hk), hk])
      · rw [if_neg fun heq => hk (namespaced_injective heq)]
        simpa [hk] using h

/-- A builtin module is known under its name and under its namespaced name. -/
theorem resolve_builtin (loader : Modules.SourceLoader) {regs : List Registration} {n : String}
    {m : Native} (h : .builtin n m ∈ regs) (hname : ∀ k, n ≠ namespaced k) :
    (ofList loader regs).resolve n = n ∧ (ofList loader regs).resolve (namespaced n) = n := by
  unfold resolve ofList
  rw [lookup_foldl_bare _ _ hname, lookup_foldl_namespaced _ _ (.inr ⟨m, h⟩)]
  exact ⟨rfl, rfl⟩

end Registry

/-- A world in which no module has been required. -/
def newWorld (surroundings : Surroundings) (registry : Registry) : World :=
  { surroundings := surroundings, registry := registry }

theorem newWorld_kept (surroundings : Surroundings) (g : Registry) :
    Kept g.aliases ⟨newWorld surroundings g, []⟩ [] := by
  have hplain : firstHeap.at_ Place.moduleCache = ⟨.plain, none, []⟩ := by rfl
  have hsize : Place.moduleCache < firstHeap.size := by decide +kernel
  have hcache : (newWorld surroundings g).heap.at_ Place.moduleCache = ⟨.plain, none, []⟩ := hplain
  have hnone : ∀ id, cached (newWorld surroundings g) id = none := fun id => by
    rw [cached_eq (by rw [hcache]), hcache]
    rfl
  constructor
  · rfl
  · exact ⟨hsize, congrArg Object.kind hplain⟩
  · intro f hf
    cases hf
  · exact List.nodup_nil
  · intro q hq
    cases hq
  · intro id
    simp [hnone, latest, loading, Conf.questions]
  · intro id r hr
    cases (hnone id).symm.trans hr
  · intro id id' r hr
    cases (hnone id).symm.trans hr

/-! ## The law of require -/

/-- **Once.** Modules are registered, and then a guest requires modules, whose bodies require
modules in turn, in any order. At any moment:

* no module is being loaded twice;
* the cache holds the modules that are being loaded, and besides exactly those whose latest load
  succeeded; an entry is marked as loaded unless its module is being loaded;
* when the innermost body throws, its own entry goes and all others stay;
* when the innermost body returns, its module has exports for good: however the guest goes on, a
  require of a name that stands for the module answers with them and begins no load.

A builtin module is loaded under its name, whether it is required by it or by its namespaced
name. -/
theorem require_once (surroundings : Surroundings) (loader : Modules.SourceLoader)
    (regs : List Registration)
    (hnames : ∀ n m, Registration.builtin n m ∈ regs → ∀ k, n ≠ Registry.namespaced k)
    (call : Call) (moves : List LoadMove) :
    let g := Registry.ofList loader regs
    let start : LoadConf := ⟨newWorld surroundings g, []⟩
    let c := start.after (requireTalk call) moves
    let events := start.events (requireTalk call) moves
    (loading c).Nodup ∧
    (∀ id, (cached c.state id).isSome ↔ id ∈ loading c ∨ latest id events = some true) ∧
    (∀ id entry, cached c.state id = some entry →
      c.state.heap.own? entry "loaded" = some (.boolean (decide (id ∉ loading c)))) ∧
    (∀ f rest, c.frames = f :: rest →
      (∀ e, let c' := (c.step (requireTalk call) (.answer (.error e) : LoadMove)).1
        ∀ id, cached c'.state id = if id = f.question.1 then none else cached c.state id) ∧
      ∃ v, (c.step (requireTalk call) (.answer (.ok ()) : LoadMove)).2 =
          [.answered f.question (.ok ()), .ended (.ok v)] ∧
        ∀ (later : List LoadMove) name, g.resolve name = f.question.1 →
          let c' := (c.step (requireTalk call) (.answer (.ok ()) : LoadMove)).1.after
            (requireTalk call) later
          c'.step (requireTalk call) (.call name : LoadMove) =
            (c', [.called name, .ended (.ok v)])) ∧
    (∀ n m, Registration.builtin n m ∈ regs →
      g.resolve n = n ∧ g.resolve (Registry.namespaced n) = n) := by
  intro g start c events
  have k : Kept g.aliases c events := by
    have h := (newWorld_kept surroundings g).after call moves
    rwa [List.nil_append] at h
  refine ⟨k.nodup, k.cached_iff, fun id entry hid => ?_, fun f rest hc => ⟨fun e => ?_, ?_⟩, ?_⟩
  · have he := k.entry id entry hid
    rw [Heap.own?_plain _ he.plain]
    exact he.loaded
  · have hnext := k.next f (hc ▸ List.mem_cons_self)
    simp only [Conf.step, hc, hnext, afterBody, Conf.settle]
    exact evicted_cached k.ready _
  · obtain ⟨v, hevents, hsettled⟩ := k.settles call hc
    refine ⟨v, hevents, fun later name hname => ?_⟩
    have k' := k.step call (.answer (.ok ()))
    refine (hsettled.after k' call later).require call ?_
    rw [Registry.resolve, (k'.after call later).aliases]
    exact hname
  · exact fun n m hm => Registry.resolve_builtin loader hm (hnames n m hm)

/-- One builtin module. -/
def pathOnly : List Registration := [.builtin "path" (.builtin .path)]

/-- It is required by its name, and then by its namespaced name. -/
theorem require_once_path :
    (∀ n m, Registration.builtin n m ∈ pathOnly → ∀ k, n ≠ Registry.namespaced k) ∧
    ∃ v, let start : LoadConf :=
        ⟨newWorld bareSurroundings (Registry.ofList Modules.loadNothing pathOnly), []⟩
      let c : LoadConf := start.after (requireTalk idleCall)
        [(.call "path" : LoadMove), .answer (.ok ())]
      c.step (requireTalk idleCall) (.call "node:path" : LoadMove) =
        (c, [.called "node:path", .ended (.ok v)]) := by
  have hnames : ∀ n m, Registration.builtin n m ∈ pathOnly → ∀ k, n ≠ Registry.namespaced k := by
    intro n m hm k heq
    cases List.mem_singleton.mp hm
    have := congrArg (·.toList.head?) heq
    simp [Registry.namespaced, String.toList_append] at this
  refine ⟨hnames, ?_⟩
  obtain ⟨-, -, -, hloads, hbuiltin⟩ := require_once bareSurroundings Modules.loadNothing pathOnly
    hnames idleCall [.call "path"]
  have hloading : loading ((⟨newWorld bareSurroundings
      (Registry.ofList Modules.loadNothing pathOnly), []⟩ : LoadConf).after (requireTalk idleCall)
      [(.call "path" : LoadMove)]) = ["path"] := by decide +kernel
  rw [loading_eq] at hloading
  obtain ⟨f, rest, hc, hf, -⟩ := List.map_eq_cons_iff.mp hloading
  obtain ⟨v, -, hlater⟩ := (hloads f rest hc).2
  refine ⟨v, hlater [] "node:path" ?_⟩
  rw [hf]
  exact (hbuiltin "path" _ (List.mem_singleton.mpr rfl)).2

end GuestLint.Guest
