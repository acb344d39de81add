import GuestLint.Guest.Build
import GuestLint.Proofs.Guest.Heap
import GuestLint.Proofs.Guest.Jobs

/-!
# Objects that a guest cannot reach

A guest gets at an object only by a reference to it. When none of the values that it holds refers to
some objects, and nothing that it can read does, it leaves these objects as they are, whatever it
does. It holds no reference to a place at which there is no object yet either.

* `Seal`: the hidden objects. A reaction with a hidden promise may wait on a promise that the guest
  can see, and its job may stand in the queue; the guest can settle the one and run the other, but
  it can read neither.
* `Refers`: which data refers to nothing that is hidden; data that a guest holds stays so while the
  heap grows.
* `Within`: what becomes of a world that a guest works in.
* `Ensures`: computations that stay within, with what is told of their values, and the elementary
  ones among them.
-/
namespace GuestLint.Guest

open GuestLint.Stream (Channel Notice)

/-! ## Seals -/

/-- What is hidden from a guest, and the hidden reaction that waits on a promise which is not. -/
structure Seal where
  hidden : Ref → Bool
  /-- The first objects of a heap are known to every guest. -/
  behind : ∀ r, hidden r = true → firstHeap.size ≤ r
  watched : Ref
  reaction : Reaction

/-- Nothing is hidden. -/
def Seal.open : Seal where
  hidden _ := false
  behind _ h := Bool.noConfusion h
  watched := 0
  reaction := ⟨.undefined, .undefined, 0⟩

/-- A place that a guest may refer to, in a heap of some size. -/
class Visible (s : Seal) (n : Nat) (r : Ref) : Prop where
  shown : s.hidden r = false
  below : r < n ∨ r < firstHeap.size

theorem Visible.mono {s : Seal} {n m : Nat} {r : Ref} (h : Visible s n r) (hle : n ≤ m) :
    Visible s m r :=
  ⟨h.shown, h.below.imp_left fun hr => Nat.lt_of_lt_of_le hr hle⟩

/-- The first objects of a heap are visible. -/
theorem Visible.first {s : Seal} {n : Nat} {r : Ref} (h : r < firstHeap.size) : Visible s n r := by
  refine ⟨?_, .inr h⟩
  cases hr : s.hidden r with
  | false => rfl
  | true => exact absurd (s.behind r hr) (Nat.not_le.mpr h)

/-! ## Data -/

/-- What is visible under one seal stays so under another, and what is hidden is hidden still. -/
structure Shows (s s' : Seal) (n m : Nat) : Prop where
  visible : ∀ {r}, Visible s n r → Visible s' m r
  hidden : ∀ {r}, s'.hidden r = false → s.hidden r = false

theorem Shows.later (s : Seal) {n m : Nat} (hle : n ≤ m) : Shows s s n m :=
  ⟨fun h => h.mono hle, id⟩

/-- Which data refers to visible places only, in a heap of some size. -/
class Refers (α : Type) where
  clear : Seal → Nat → α → Prop
  map : ∀ {s s' : Seal} {n m : Nat} {a : α}, Shows s s' n m → clear s n a → clear s' m a

/-- Data of any other type refers to nothing. -/
instance (priority := low) plainRefers {α : Type} : Refers α where
  clear _ _ _ := True
  map _ h := h

/-- Data stays clear while the heap grows. -/
theorem Refers.mono {α : Type} [Refers α] {s : Seal} {n m : Nat} {a : α} (hle : n ≤ m)
    (h : Refers.clear s n a) : Refers.clear s m a := Refers.map (.later s hle) h

section
variable {α β : Type} [Refers α] [Refers β]

instance : Refers (List α) where
  clear s n xs := ∀ a ∈ xs, Refers.clear s n a
  map hs h a ha := Refers.map hs (h a ha)

instance : Refers (Option α) where
  clear s n o := ∀ a ∈ o, Refers.clear s n a
  map hs h a ha := Refers.map hs (h a ha)

instance : Refers (α × β) where
  clear s n p := Refers.clear s n p.1 ∧ Refers.clear s n p.2
  map hs h := ⟨Refers.map hs h.1, Refers.map hs h.2⟩

instance : Refers (Except α β) where
  clear s n
    | .ok b => Refers.clear s n b
    | .error a => Refers.clear s n a
  map {_ _ _ _ r} hs h := by cases r <;> exact Refers.map hs h

instance : Refers (ForInStep α) where
  clear s n
    | .done a | .yield a => Refers.clear s n a
  map {_ _ _ _ r} hs h := by cases r <;> exact Refers.map hs h

end

instance : Refers Value where
  clear s n
    | .object r => Visible s n r
    | _ => True
  map {_ _ _ _ v} hs h := by
    cases v with
    | object r => exact hs.visible h
    | _ => trivial

instance : Refers Stop where
  clear s n
    | .thrown v => Refers.clear s n v
    | _ => True
  map {_ _ _ _ stop} hs h := by
    cases stop with
    | thrown v => exact Refers.map hs (a := v) h
    | _ => trivial

instance : Refers StreamFunction where
  clear s n
    | .acknowledge r => Visible s n r
    | _ => True
  map {_ _ _ _ f} hs h := by
    cases f with
    | acknowledge r => exact hs.visible h
    | _ => trivial

instance : Refers Function where
  clear s n
    | .promisified v => Refers.clear s n v
    | .promisedResult r | .settle r _ _ => Visible s n r
    | .stream f _ => Refers.clear s n f
    | .callbackStyle e v _ => Refers.clear s n e ∧ Refers.clear s n v
    | .formatResults bundle promise => Refers.clear s n bundle ∧ Visible s n promise
    | .sampleChecks _ _ files => Refers.clear s n files
    | _ => True
  map {_ _ _ _ f} hs h := by
    cases f with
    | promisified v => exact Refers.map hs (a := v) h
    | promisedResult r => exact hs.visible h
    | settle r round fulfils => exact hs.visible h
    | stream f channel => exact Refers.map hs (a := f) h
    | callbackStyle e v times => exact ⟨Refers.map hs h.1, Refers.map hs h.2⟩
    | formatResults bundle promise => exact ⟨Refers.map hs h.1, hs.visible h.2⟩
    | sampleChecks path directory files => exact Refers.map hs (a := files) h
    | _ => trivial

/-- A reaction with a hidden promise is not the guest's. -/
instance : Refers Reaction where
  clear s n reaction := s.hidden reaction.derived = false →
    Visible s n reaction.derived ∧ Refers.clear s n reaction.onFulfilled ∧
      Refers.clear s n reaction.onRejected
  map hs h hd :=
    have h := h (hs.hidden hd)
    ⟨hs.visible h.1, Refers.map hs h.2.1, Refers.map hs h.2.2⟩

instance : Refers PromiseState where
  clear s n
    | .pending _ reactions => Refers.clear s n reactions
    | .fulfilled v | .rejected v => Refers.clear s n v
  map {_ _ _ _ state} hs h := by
    cases state with
    | pending round reactions => exact Refers.map hs (a := reactions) h
    | fulfilled v => exact Refers.map hs (a := v) h
    | rejected v => exact Refers.map hs (a := v) h

instance : Refers ObjectKind where
  clear s n
    | .list items => Refers.clear s n items
    | .function f => Refers.clear s n f
    | .bytes store _ _ => Visible s n store
    | .promise state => Refers.clear s n state
    | _ => True
  map {_ _ _ _ kind} hs h := by
    cases kind with
    | list items => exact Refers.map hs (a := items) h
    | function f => exact Refers.map hs (a := f) h
    | bytes store offset length => exact hs.visible h
    | promise state => exact Refers.map hs (a := state) h
    | _ => trivial

instance : Refers Property where
  clear s n p := Refers.clear s n p.value
  map {_ _ _ _ p} hs h := Refers.map hs (a := p.value) h

/-- What an object shows of others. -/
structure Object.Clear (s : Seal) (n : Nat) (o : Object) : Prop where
  kind : Refers.clear s n o.kind
  parent : ∀ p ∈ o.parent, Visible s n p
  properties : Refers.clear s n o.properties

instance : Refers Object where
  clear := Object.Clear
  map hs h :=
    ⟨Refers.map hs h.kind, fun p hp => hs.visible (h.parent p hp), Refers.map hs h.properties⟩

/-- The objects that are not hidden. -/
instance : Refers Heap where
  clear s n h := ∀ r, s.hidden r = false → Refers.clear s n (h.at_ r)
  map hs h r hr := Refers.map hs (h r (hs.hidden hr))

/-- A job that settles a hidden promise is not the guest's, but what it hands over is. -/
instance : Refers Job where
  clear s n
    | .react handler argument _ derived => Refers.clear s n argument ∧
        (s.hidden derived = false → Visible s n derived ∧ Refers.clear s n handler)
    | .adopt promise _ thenable method =>
      Visible s n promise ∧ Refers.clear s n thenable ∧ Refers.clear s n method
    | .invoke f args => Refers.clear s n f ∧ Refers.clear s n args
    | .settleAfter _ promise value _ => Visible s n promise ∧ Refers.clear s n value
    | .spin => True
  map {_ _ _ _ job} hs h := by
    cases job with
    | react handler argument fulfils derived =>
      refine ⟨Refers.map hs h.1, fun hd => ?_⟩
      have h' := h.2 (hs.hidden hd)
      exact ⟨hs.visible h'.1, Refers.map hs h'.2⟩
    | adopt promise round thenable method =>
      exact ⟨hs.visible h.1, Refers.map hs h.2.1, Refers.map hs h.2.2⟩
    | invoke f args => exact ⟨Refers.map hs h.1, Refers.map hs h.2⟩
    | settleAfter turns promise value fulfils => exact ⟨hs.visible h.1, Refers.map hs h.2⟩
    | spin => trivial

/-- What a channel holds. -/
structure ChannelClear (s : Seal) (n : Nat) (c : Channel Value Value) : Prop where
  chunks : Refers.clear s n c.chunks
  data : Refers.clear s n c.dataListeners
  error : Refers.clear s n c.errorListeners
  ends : Refers.clear s n c.endListeners
  reason : Refers.clear s n c.reason

instance : Refers (Channel Value Value) where
  clear := ChannelClear
  map hs h :=
    ⟨Refers.map hs h.chunks, Refers.map hs h.data, Refers.map hs h.error, Refers.map hs h.ends,
      Refers.map hs h.reason⟩

instance : Refers (Notice Value) where
  clear s n
    | .data chunk => Refers.clear s n chunk
    | .error reason => Refers.clear s n reason
    | .end => True
  map {_ _ _ _ notice} hs h := by
    cases notice with
    | data chunk => exact Refers.map hs (a := chunk) h
    | error reason => exact Refers.map hs (a := reason) h
    | «end» => trivial

instance : Refers (Array (Channel Value Value)) where
  clear s n cs := ∀ i : Nat, Refers.clear s n (cs[i]?.getD {})
  map hs h i := Refers.map hs (h i)

/-- What a guest can find in a world. -/
structure World.Clear (s : Seal) (n : Nat) (w : World) : Prop where
  heap : Refers.clear s n w.heap
  jobs : Refers.clear s n w.jobs
  channels : Refers.clear s n w.channels
  stored : Refers.clear s n w.stored
  kept : Refers.clear s n w.kept

instance : Refers World where
  clear := World.Clear
  map hs h :=
    ⟨Refers.map hs h.heap, Refers.map hs h.jobs, Refers.map hs h.channels,
      Refers.map hs h.stored, Refers.map hs h.kept⟩

/-- A world in which nothing refers to a hidden object, or to a place behind the heap's end. -/
structure Sealed (s : Seal) (w : World) : Prop where
  based : firstHeap.size ≤ w.heap.size
  bounded : ∀ r, s.hidden r = true → r < w.heap.size
  watched : s.watched < w.heap.size
  clear : Refers.clear s w.heap.size w

/-! ## The hidden reaction -/

namespace Seal

variable (s : Seal)

/-- The reactions on an object whose promises are hidden. -/
def reactionsOn (o : Object) : List Reaction :=
  match o.kind with
  | .promise (.pending _ reactions) => reactions.filter fun reaction => s.hidden reaction.derived
  | _ => []

def settles : Job → Bool
  | .react _ _ _ derived => s.hidden derived
  | _ => false

/-- The jobs that settle hidden promises. -/
def jobsIn (w : World) : List Job := w.jobs.filter s.settles

end Seal

/-- How far the hidden reaction has come: it waits on the watched promise; its job is in the queue;
it was lost with a promise that has ceased to be one; or it has been run, and these jobs for hidden
promises are in the queue. -/
inductive Phase where
  | waiting
  | released (value : Value) (fulfils : Bool)
  | lost
  | spent (jobs : List Job)

/-- The state of a promise that has settled. -/
def settledState (value : Value) (fulfils : Bool) : PromiseState :=
  if fulfils then .fulfilled value else .rejected value

def ObjectKind.isPromise : ObjectKind → Bool
  | .promise _ => true
  | _ => false

theorem ObjectKind.isPromise_iff {kind : ObjectKind} :
    kind.isPromise = true ↔ ∃ state, kind = .promise state := by
  constructor
  · intro h
    cases kind with
    | promise state => exact ⟨state, rfl⟩
    | _ => cases h
  · rintro ⟨state, rfl⟩
    rfl

/-- The kind of the watched promise when its reaction has been released: it has settled, or it has
ceased to be a promise. -/
def Outlived (value : Value) (fulfils : Bool) (kind : ObjectKind) : Prop :=
  kind = .promise (settledState value fulfils) ∨ kind.isPromise = false

/-- No visible object but those in `except` has hidden reactions on it. -/
def Unwatched (s : Seal) (h : Heap) (except : Ref → Prop) : Prop :=
  ∀ r, s.hidden r = false → ¬ except r → s.reactionsOn (h.at_ r) = []

def Stands (s : Seal) (w : World) : Phase → Prop
  | .waiting => s.jobsIn w = [] ∧ s.reactionsOn (w.heap.at_ s.watched) = [s.reaction] ∧
      Unwatched s w.heap (· = s.watched)
  | .released v fulfils => s.jobsIn w = [s.reaction.job v fulfils] ∧
      Outlived v fulfils (w.heap.at_ s.watched).kind ∧ Unwatched s w.heap fun _ => False
  | .lost => s.jobsIn w = [] ∧ (w.heap.at_ s.watched).kind.isPromise = false ∧
      Unwatched s w.heap fun _ => False
  | .spent jobs => s.jobsIn w = jobs ∧ Unwatched s w.heap fun _ => False

/-- A phase is told by the hidden jobs, the watched promise and what no other object has on it. -/
theorem Stands.of_watched {s : Seal} {w w' : World} (hjobs : s.jobsIn w' = s.jobsIn w)
    (hwatched : w'.heap.at_ s.watched = w.heap.at_ s.watched)
    (hunwatched : ∀ except, Unwatched s w.heap except → Unwatched s w'.heap except) {φ : Phase}
    (h : Stands s w φ) : Stands s w' φ := by
  cases φ with
  | spent jobs => exact ⟨hjobs.trans h.1, hunwatched _ h.2⟩
  | _ => exact ⟨hjobs.trans h.1, hwatched.symm ▸ h.2.1, hunwatched _ h.2.2⟩

theorem Stands.congr {s : Seal} {w w' : World} (hheap : w'.heap = w.heap)
    (hjobs : s.jobsIn w' = s.jobsIn w) {φ : Phase} (h : Stands s w φ) : Stands s w' φ :=
  h.of_watched hjobs (by rw [hheap]) fun _ h => by rwa [hheap]

/-- The way from one phase to another, as far as a guest can take it. -/
inductive Phase.Leads : Phase → Phase → Prop where
  | stay (φ : Phase) : Leads φ φ
  | release (value : Value) (fulfils : Bool) : Leads .waiting (.released value fulfils)
  | lose : Leads .waiting .lost

theorem Phase.Leads.trans {φ φ' φ'' : Phase} (h : φ.Leads φ') (h' : φ'.Leads φ'') :
    φ.Leads φ'' := by
  cases h with
  | stay => exact h'
  | release v fulfils =>
    cases h'
    exact .release v fulfils
  | lose =>
    cases h'
    exact .lose

/-! ## Staying within -/

/-- What becomes of a world that a guest works in. -/
structure Stays (s : Seal) (w w' : World) : Prop where
  is : Sealed s w'
  size : w.heap.size ≤ w'.heap.size
  hidden : ∀ r, s.hidden r = true → w'.heap.at_ r = w.heap.at_ r
  surroundings : w'.surroundings = w.surroundings
  phase : ∀ φ, Stands s w φ → ∃ φ', φ.Leads φ' ∧ Stands s w' φ'

theorem Stays.refl {s : Seal} {w : World} (h : Sealed s w) : Stays s w w :=
  ⟨h, Nat.le_refl _, fun _ _ => rfl, rfl, fun φ hφ => ⟨φ, .stay φ, hφ⟩⟩

theorem Stays.trans {s : Seal} {w w' w'' : World} (h : Stays s w w') (h' : Stays s w' w'') :
    Stays s w w'' := by
  refine ⟨h'.is, Nat.le_trans h.size h'.size, fun r hr => ?_,
    h'.surroundings.trans h.surroundings, ?_⟩
  · rw [h'.hidden r hr, h.hidden r hr]
  · intro φ hφ
    obtain ⟨φ', hlead, hφ'⟩ := h.phase φ hφ
    obtain ⟨φ'', hlead', hφ''⟩ := h'.phase φ' hφ'
    exact ⟨φ'', hlead.trans hlead', hφ''⟩

/-- The same for a computation, which takes no job off the queue. -/
structure Within (s : Seal) (w w' : World) : Prop extends Stays s w w' where
  queue : w.jobs <+: w'.jobs

theorem Within.refl {s : Seal} {w : World} (h : Sealed s w) : Within s w w :=
  ⟨.refl h, List.prefix_refl _⟩

theorem Within.trans {s : Seal} {w w' w'' : World} (h : Within s w w') (h' : Within s w' w'') :
    Within s w w'' := ⟨h.toStays.trans h'.toStays, h.queue.trans h'.queue⟩

variable {s : Seal} {n m : Nat} {α β : Type}

/-- How a computation ends: with a value that has a property of the heap's size, or with an
exception that refers to nothing hidden. -/
def Ended (s : Seal) (Q : Nat → α → Prop) : Except Stop α × World → Prop
  | (.ok a, w) => Q w.heap.size a
  | (.error e, w) => Refers.clear s w.heap.size e

/-- From any sealed world with a heap of some size, the computation stays within, and it ends as
told. -/
def Ensures (s : Seal) (n : Nat) (Q : Nat → α → Prop) (x : Machine α) : Prop :=
  ∀ w, n ≤ w.heap.size → Sealed s w → Within s w (run w x).2 ∧ Ended s Q (run w x)

namespace Ensures

variable {Q : Nat → α → Prop} {Q' : Nat → β → Prop}

theorem pure {a : α} (h : ∀ m, n ≤ m → Q m a) : Ensures s n Q (Pure.pure a) :=
  fun w hle hw => ⟨.refl hw, h w.heap.size hle⟩

theorem throw {e : Stop} (h : Refers.clear s n e) : Ensures s n Q (MonadExcept.throw e) :=
  fun _ hle hw => ⟨.refl hw, Refers.mono hle h⟩

theorem bind {x : Machine α} {f : α → Machine β} (hx : Ensures s n Q x)
    (hf : ∀ m a, n ≤ m → Q m a → Ensures s m Q' (f a)) : Ensures s n Q' (x >>= f) := by
  intro w hle hw
  obtain ⟨hin, hend⟩ := hx w hle hw
  rw [run_bind]
  cases hrun : run w x with
  | mk r w' =>
    rw [hrun] at hin hend
    cases r with
    | error e => exact ⟨hin, hend⟩
    | ok a =>
      obtain ⟨hin', hend'⟩ := hf _ a (Nat.le_trans hle hin.size) hend w' (Nat.le_refl _) hin.is
      exact ⟨hin.trans hin', hend'⟩

theorem tryCatch {x : Machine α} {f : Stop → Machine α} (hx : Ensures s n Q x)
    (hf : ∀ m e, n ≤ m → Refers.clear s m e → Ensures s m Q (f e)) :
    Ensures s n Q (tryCatchThe Stop x f) := by
  intro w hle hw
  obtain ⟨hin, hend⟩ := hx w hle hw
  rw [run_tryCatch]
  cases hrun : run w x with
  | mk r w' =>
    rw [hrun] at hin hend
    cases r with
    | ok a => exact ⟨hin, hend⟩
    | error e =>
      obtain ⟨hin', hend'⟩ := hf _ e (Nat.le_trans hle hin.size) hend w' (Nat.le_refl _) hin.is
      exact ⟨hin.trans hin', hend'⟩

theorem mono {Q' : Nat → α → Prop} {x : Machine α} (hx : Ensures s n Q x) (hle : n ≤ m)
    (hQ : ∀ k a, m ≤ k → Q k a → Q' k a) : Ensures s m Q' x := by
  intro w hw hs
  obtain ⟨hin, hend⟩ := hx w (Nat.le_trans hle hw) hs
  refine ⟨hin, ?_⟩
  have hk := Nat.le_trans hw hin.size
  revert hend hk
  cases run w x with
  | mk r w' =>
    cases r with
    | ok a => exact fun hend hk => hQ _ a hk hend
    | error e => exact fun hend _ => hend

/-- One element after another; what is told of elements and of results stays true while the heap
grows. -/
theorem mapM {P : Nat → α → Prop} {xs : List α} {f : α → Machine β}
    (hP : ∀ {k m a}, k ≤ m → P k a → P m a) (hQ : ∀ {k m b}, k ≤ m → Q' k b → Q' m b)
    (hxs : ∀ a ∈ xs, P n a) (hf : ∀ m a, n ≤ m → P m a → Ensures s m Q' (f a)) :
    Ensures s n (fun m bs => ∀ b ∈ bs, Q' m b) (xs.mapM f) := by
  have hloop : ∀ k, n ≤ k → Ensures s k (fun m bs => ∀ b ∈ bs, Q' m b) (xs.mapM f) := by
    induction xs with
    | nil => exact fun k _ => .pure fun _ _ _ hb => nomatch hb
    | cons x xs ih =>
      intro k hle
      have hrest := ih fun a ha => hxs a (List.mem_cons_of_mem _ ha)
      rw [List.mapM_cons]
      refine (hf k x hle (hP hle (hxs x List.mem_cons_self))).bind fun k' b hk' hb => ?_
      refine (hrest k' (Nat.le_trans hle hk')).bind fun k'' bs hk'' hbs => ?_
      refine .pure fun m hm b' hb' => ?_
      obtain rfl | hb' := List.mem_cons.mp hb'
      · exact hQ (Nat.le_trans hk'' hm) hb
      · exact hQ hm (hbs b' hb')
  exact hloop n (Nat.le_refl n)

end Ensures

/-! ### Elementary computations -/

theorem Sealed.clear_at {w : World} (h : Sealed s w) {r : Ref} (hr : s.hidden r = false) :
    Refers.clear s w.heap.size (w.heap.at_ r) := h.clear.heap r hr

theorem ensures_get : Ensures s n (fun m => Refers.clear s m) (get : Machine World) :=
  fun _ _ hw => ⟨.refl hw, hw.clear⟩

theorem ensures_heap : Ensures s n (fun m => Refers.clear s m) heap :=
  fun _ _ hw => ⟨.refl hw, hw.clear.heap⟩

/-- A change of what is neither an object nor a job. -/
theorem ensures_modify {f : World → World} (hheap : ∀ w, (f w).heap = w.heap)
    (hjobs : ∀ w, (f w).jobs = w.jobs) (hsurroundings : ∀ w, (f w).surroundings = w.surroundings)
    (hclear : ∀ m w, n ≤ m → Refers.clear s m w → Refers.clear s m (f w)) :
    Ensures s n (fun m => Refers.clear s m) (modify f : Machine Unit) := by
  intro w hle hw
  have hstands : ∀ φ, Stands s w φ → Stands s (f w) φ := fun φ =>
    Stands.congr (hheap w) (by rw [Seal.jobsIn, hjobs]; rfl)
  refine ⟨⟨⟨⟨?_, ?_, ?_, ?_⟩, ?_, ?_, hsurroundings w, fun φ hφ => ⟨φ, .stay φ, hstands φ hφ⟩⟩,
    ?_⟩, trivial⟩
  all_goals simp only [run_modify, hheap, hjobs]
  · exact hw.based
  · exact hw.bounded
  · exact hw.watched
  · exact hclear _ w hle hw.clear
  · exact Nat.le_refl _
  · exact fun _ _ => trivial
  · exact List.prefix_refl _

/-- An object on which no reaction waits. -/
class Fresh (o : Object) : Prop where
  noReaction : ∀ s : Seal, s.reactionsOn o = []

theorem ensures_allocate {o : Object} [hfresh : Fresh o] (ho : Refers.clear s n o) :
    Ensures s n (Visible s) (allocate o) := by
  intro w hle hw
  have hnew : s.hidden w.heap.size = false := by
    cases h : s.hidden w.heap.size with
    | false => rfl
    | true => exact absurd (hw.bounded _ h) (Nat.lt_irrefl _)
  have hat : ∀ r, Heap.at_ (w.heap.push o) r = if r = w.heap.size then o else w.heap.at_ r :=
    fun r => Heap.at_push w.heap o r
  have hold : ∀ r, r < w.heap.size → Heap.at_ (w.heap.push o) r = w.heap.at_ r := fun r hr => by
    rw [hat, if_neg (Nat.ne_of_lt hr)]
  have hunwatched : ∀ except, Unwatched s w.heap except →
      Unwatched s (w.heap.push o) except := by
    intro except h r hr hne
    rw [hat]
    split
    · exact hfresh.noReaction s
    · exact h r hr hne
  have hstands : ∀ φ, Stands s w φ → Stands s { w with heap := w.heap.push o } φ := by
    intro φ
    refine Stands.of_watched ?_ (hold _ hw.watched) hunwatched
    rfl
  have hlast : w.heap.size ≤ (w.heap.push o).size := by simp
  rw [run_allocate]
  refine ⟨⟨⟨⟨?_, ?_, ?_, ?_, ?_, ?_, ?_, ?_⟩, hlast, ?_, rfl, ?_⟩, List.prefix_refl _⟩, hnew, ?_⟩
  · exact Nat.le_trans hw.based hlast
  · exact fun r hr => Nat.lt_of_lt_of_le (hw.bounded r hr) hlast
  · exact Nat.lt_of_lt_of_le hw.watched hlast
  · intro r hr
    rw [hat]
    split
    · exact Refers.mono (Nat.le_trans hle hlast) ho
    · exact Refers.mono hlast (hw.clear_at hr)
  · exact Refers.mono hlast hw.clear.jobs
  · exact Refers.mono hlast hw.clear.channels
  · exact Refers.mono hlast hw.clear.stored
  · exact Refers.mono hlast hw.clear.kept
  · exact fun r hr => hold r (hw.bounded r hr)
  · exact fun φ hφ => ⟨φ, .stay φ, hstands φ hφ⟩
  · exact .inl (by simp)

theorem Seal.reactionsOn_of_noPromise {o : Object} (h : o.kind.isPromise = false) :
    s.reactionsOn o = [] := by
  unfold Seal.reactionsOn
  cases hk : o.kind with
  | promise state =>
    rw [hk] at h
    cases h
  | _ => rfl

/-- A change of an object keeps the hidden reactions on it, unless it ceases to be a promise. A
promise that has settled keeps its outcome, and nothing becomes a promise. -/
structure Harmless (s : Seal) (o o' : Object) : Prop where
  reactions : s.reactionsOn o' = s.reactionsOn o ∨ o'.kind.isPromise = false
  outlived : ∀ v fulfils, Outlived v fulfils o.kind → Outlived v fulfils o'.kind
  noPromise : o.kind.isPromise = false → o'.kind.isPromise = false

theorem Harmless.of_kind {o o' : Object} (h : o'.kind = o.kind) : Harmless s o o' :=
  ⟨.inl (by rw [Seal.reactionsOn, h]; rfl), fun _ _ ho => h ▸ ho, fun ho => h ▸ ho⟩

theorem Harmless.of_noPromise {o o' : Object} (h : o'.kind.isPromise = false) :
    Harmless s o o' := ⟨.inr h, fun _ _ _ => .inr h, fun _ => h⟩

theorem stands_modify {w : World} {r : Ref} {f : Object → Object} (hr : s.hidden r = false)
    (hf : Harmless s (w.heap.at_ r) (f (w.heap.at_ r))) {φ : Phase} (hφ : Stands s w φ) :
    ∃ φ', φ.Leads φ' ∧ Stands s { w with heap := w.heap.modify r f } φ' := by
  have hat : ∀ r', (w.heap.modify r f).at_ r' = w.heap.at_ r' ∨
      r' = r ∧ (w.heap.modify r f).at_ r' = f (w.heap.at_ r) := by
    intro r'
    rw [Heap.at_modify]
    split
    · rename_i h
      exact .inr ⟨h.1, rfl⟩
    · exact .inl rfl
  have hunwatched : ∀ except, Unwatched s w.heap except →
      Unwatched s (w.heap.modify r f) except := by
    intro except h r' hr' hne
    obtain hkeep | ⟨rfl, hnew⟩ := hat r'
    · exact (congrArg s.reactionsOn hkeep).trans (h r' hr' hne)
    · refine (congrArg s.reactionsOn hnew).trans ?_
      obtain hsame | hgone := hf.reactions
      · exact hsame.trans (h r' hr' hne)
      · exact s.reactionsOn_of_noPromise hgone
  cases φ with
  | spent jobs => exact ⟨_, .stay _, hφ.1, hunwatched _ hφ.2⟩
  | released v fulfils =>
    refine ⟨_, .stay _, hφ.1, ?_, hunwatched _ hφ.2.2⟩
    obtain hkeep | ⟨heq, hnew⟩ := hat s.watched
    · exact (congrArg Object.kind hkeep).symm ▸ hφ.2.1
    · refine (congrArg Object.kind hnew).symm ▸ hf.outlived v fulfils ?_
      exact heq ▸ hφ.2.1
  | lost =>
    refine ⟨_, .stay _, hφ.1, ?_, hunwatched _ hφ.2.2⟩
    obtain hkeep | ⟨heq, hnew⟩ := hat s.watched
    · exact (congrArg Object.kind hkeep).symm ▸ hφ.2.1
    · refine (congrArg Object.kind hnew).symm ▸ hf.noPromise ?_
      exact heq ▸ hφ.2.1
  | waiting =>
    obtain ⟨hjobs, hwaits, hrest⟩ := hφ
    obtain hkeep | ⟨heq, hnew⟩ := hat s.watched
    · exact ⟨_, .stay _, hjobs, (congrArg s.reactionsOn hkeep).trans hwaits, hunwatched _ hrest⟩
    obtain hsame | hgone := hf.reactions
    · refine ⟨_, .stay _, hjobs, (congrArg s.reactionsOn hnew).trans (hsame.trans ?_),
        hunwatched _ hrest⟩
      exact heq ▸ hwaits
    · refine ⟨_, .lose, hjobs, (congrArg Object.kind hnew).symm ▸ hgone, fun r' hr' _ => ?_⟩
      by_cases hwatched : r' = s.watched
      · rw [hwatched]
        exact (congrArg s.reactionsOn hnew).trans (s.reactionsOn_of_noPromise hgone)
      · exact hunwatched _ hrest r' hr' hwatched

/-- A change of a visible object. -/
theorem within_modify {w : World} (hw : Sealed s w) {r : Ref} (hr : s.hidden r = false)
    {f : Object → Object} (hclear : Refers.clear s w.heap.size (f (w.heap.at_ r)))
    (hf : Harmless s (w.heap.at_ r) (f (w.heap.at_ r))) :
    Within s w { w with heap := w.heap.modify r f } := by
  have hsize : (w.heap.modify r f).size = w.heap.size := Heap.size_modify ..
  refine ⟨⟨⟨?_, ?_, ?_, ?_, ?_, ?_, ?_, ?_⟩, hsize ▸ Nat.le_refl _, ?_, rfl,
    fun φ hφ => stands_modify hr hf hφ⟩, List.prefix_refl _⟩
  · exact hsize ▸ hw.based
  · exact hsize ▸ hw.bounded
  · exact hsize ▸ hw.watched
  · intro r' hr'
    rw [hsize, Heap.at_modify]
    split
    · exact hclear
    · exact hw.clear_at hr'
  · exact hsize ▸ hw.clear.jobs
  · exact hsize ▸ hw.clear.channels
  · exact hsize ▸ hw.clear.stored
  · exact hsize ▸ hw.clear.kept
  · intro r' hr'
    exact Heap.at_modify_ne _ (fun heq => by rw [heq, hr] at hr'; cases hr') _

theorem ensures_modifyObject {r : Ref} {f : Object → Object} (hr : Visible s n r)
    (hclear : ∀ m o, n ≤ m → Refers.clear s m o → Refers.clear s m (f o))
    (hkind : ∀ o, (f o).kind = o.kind ∨ (f o).kind.isPromise = false) :
    Ensures s n (fun m => Refers.clear s m) (modifyObject r f) := by
  intro w hle hw
  have hf : Harmless s (w.heap.at_ r) (f (w.heap.at_ r)) :=
    (hkind _).elim .of_kind .of_noPromise
  exact ⟨within_modify hw hr.shown (hclear _ _ hle (hw.clear_at hr.shown)) hf, trivial⟩

end GuestLint.Guest
