import GuestLint.Guest.Machine
import GuestLint.Proofs.Dialogue

/-!
# Runs of guest computations

What `run` makes of the operations that guest computations are built from, and how a computation
that calls the guest is cut into a dialogue.

* `Leaves`: a computation that ends normally and leaves one part of the world alone.
* `Spares`: a computation that leaves one part of the world alone, however it ends.
* `hosted`: a computation as a step of a dialogue that asks nothing.
* `Carries`: the dialogue and the computation agree when a host answers the questions; it is
  closed under the ways in which computations are put together.
-/
namespace GuestLint.Guest

open Dialogue (Stage Talk)

/-! ## What `run` makes of each operation -/

variable {α β : Type}

@[simp] theorem run_pure (w : World) (a : α) : run w (pure a) = (.ok a, w) := rfl

theorem run_bind (w : World) (x : Machine α) (f : α → Machine β) :
    run w (x >>= f) =
      match run w x with
      | (.ok a, w) => run w (f a)
      | (.error e, w) => (.error e, w) := by
  show (ExceptT.bindCont f (x w).1) (x w).2 = _
  unfold run ExceptT.run StateT.run
  cases x w with
  | mk r w => cases r <;> rfl

theorem run_bind_ok {w w' : World} {x : Machine α} {a : α} (h : run w x = (.ok a, w'))
    (f : α → Machine β) : run w (x >>= f) = run w' (f a) := by
  rw [run_bind, h]

/-- A computation that ends normally ends where the rest of it does. -/
theorem run_bind_eq_ok {w w'' : World} {x : Machine α} {f : α → Machine β} {b : β}
    (h : run w (x >>= f) = (.ok b, w'')) :
    ∃ a w', run w x = (.ok a, w') ∧ run w' (f a) = (.ok b, w'') := by
  rw [run_bind] at h
  cases hrun : run w x with
  | mk r w' =>
    rw [hrun] at h
    cases r with
    | ok a => exact ⟨a, w', rfl, h⟩
    | error e => cases h

theorem run_tryCatch (w : World) (x : Machine α) (f : Stop → Machine α) :
    run w (tryCatchThe Stop x f) =
      match run w x with
      | (.ok a, w) => (.ok a, w)
      | (.error e, w) => run w (f e) := by
  simp only [run, ExceptT.run, StateT.run, tryCatchThe, MonadExceptOf.tryCatch, ExceptT.tryCatch,
    ExceptT.mk, bind, StateT.bind]
  cases x w with
  | mk r w => cases r <;> rfl

/-- Steps that change nothing, one after another. -/
theorem run_mapM {w : World} {f : α → Machine β} {g : α → β} {xs : List α}
    (h : ∀ x ∈ xs, run w (f x) = (.ok (g x), w)) :
    run w (xs.mapM f) = (.ok (xs.map g), w) := by
  induction xs with
  | nil => rfl
  | cons x xs ih =>
    have hrest := ih fun y hy => h y (List.mem_cons_of_mem x hy)
    rw [List.mapM_cons, run_bind_ok (h x List.mem_cons_self), run_bind_ok hrest]
    rfl

@[simp] theorem run_get (w : World) : run w (get : Machine World) = (.ok w, w) := rfl

@[simp] theorem run_modify (w : World) (f : World → World) :
    run w (modify f : Machine Unit) = (.ok (), f w) := rfl

@[simp] theorem run_heap (w : World) : run w heap = (.ok w.heap, w) := rfl

@[simp] theorem run_modifyObject (w : World) (r : Ref) (f : Object → Object) :
    run w (modifyObject r f) = (.ok (), { w with heap := w.heap.modify r f }) := rfl

@[simp] theorem run_allocate (w : World) (o : Object) :
    run w (allocate o) = (.ok w.heap.size, { w with heap := w.heap.push o }) := rfl

/-! ## Parts of the world that a computation leaves alone -/

/-- The computation ends normally, and `π` sees no difference. -/
def Leaves {γ : Type} (π : World → γ) (x : Machine α) : Prop :=
  ∀ w, ∃ a w', run w x = (.ok a, w') ∧ π w' = π w

section
variable {γ : Type} {π : World → γ}

theorem Leaves.pure (a : α) : Leaves π (Pure.pure a : Machine α) := fun w => ⟨a, w, rfl, rfl⟩

theorem Leaves.bind {x : Machine α} {f : α → Machine β} (hx : Leaves π x)
    (hf : ∀ a, Leaves π (f a)) : Leaves π (x >>= f) := by
  intro w
  obtain ⟨a, w1, h1, hπ1⟩ := hx w
  obtain ⟨b, w2, h2, hπ2⟩ := hf a w1
  exact ⟨b, w2, (run_bind_ok h1 f).trans h2, hπ2.trans hπ1⟩

/-- A run goes on where a computation has left it. -/
theorem Leaves.run_bind {x : Machine α} {f : α → Machine β} (hx : Leaves π x) {w : World} {b : β}
    {P : World → Prop}
    (hf : ∀ a w', π w' = π w → ∃ w'', run w' (f a) = (.ok b, w'') ∧ P w'') :
    ∃ w'', run w (x >>= f) = (.ok b, w'') ∧ P w'' := by
  obtain ⟨a, w', hrun, hπ⟩ := hx w
  rw [run_bind_ok hrun]
  exact hf a w' hπ

theorem Leaves.map {x : Machine α} (f : α → β) (hx : Leaves π x) : Leaves π (f <$> x) := by
  rw [← bind_pure_comp]
  exact hx.bind fun a => .pure (f a)

theorem Leaves.forIn {xs : List α} {b : β} {f : α → β → Machine (ForInStep β)}
    (hf : ∀ a b, Leaves π (f a b)) : Leaves π (forIn xs b f) := by
  induction xs generalizing b with
  | nil => exact Leaves.pure b
  | cons x xs ih =>
    rw [List.forIn_cons]
    refine (hf x b).bind fun s => ?_
    cases s with
    | done b => exact Leaves.pure b
    | yield b => exact ih

theorem Leaves.mapM {f : α → Machine β} (hf : ∀ a, Leaves π (f a)) (xs : List α) :
    Leaves π (xs.mapM f) := by
  induction xs with
  | nil => exact Leaves.pure []
  | cons x xs ih =>
    rw [List.mapM_cons]
    exact (hf x).bind fun _ => ih.bind fun _ => Leaves.pure _

theorem leaves_get : Leaves π (get : Machine World) := fun w => ⟨w, w, rfl, rfl⟩

theorem leaves_heap : Leaves π heap := fun w => ⟨w.heap, w, rfl, rfl⟩

/-- However the computation ends, `π` sees no difference. -/
def Spares (π : World → γ) (x : Machine α) : Prop :=
  ∀ w, π (run w x).2 = π w

theorem Leaves.spares {x : Machine α} (h : Leaves π x) : Spares π x := by
  intro w
  obtain ⟨a, w', hrun, hπ⟩ := h w
  rw [hrun]
  exact hπ

theorem Spares.pure (a : α) : Spares π (Pure.pure a : Machine α) := fun _ => rfl

theorem Spares.throw (e : Stop) : Spares π (MonadExceptOf.throw e : Machine α) := fun _ => rfl

theorem Spares.bind {x : Machine α} {f : α → Machine β} (hx : Spares π x)
    (hf : ∀ a, Spares π (f a)) : Spares π (x >>= f) := by
  intro w
  have h := hx w
  rw [run_bind]
  cases hrun : run w x with
  | mk r w' =>
    rw [hrun] at h
    cases r with
    | ok a => exact (hf a w').trans h
    | error e => exact h

end

/-! Objects are not where channels are kept. -/

theorem leaves_channels_allocate (o : Object) : Leaves World.channels (allocate o) :=
  fun _ => ⟨_, _, rfl, rfl⟩

theorem leaves_channels_modifyObject (r : Ref) (f : Object → Object) :
    Leaves World.channels (modifyObject r f) := fun _ => ⟨(), _, rfl, rfl⟩

theorem leaves_channels_assign (r : Ref) (name : String) (v : Value) :
    Leaves World.channels (assign r name v) := leaves_channels_modifyObject r _

theorem leaves_channels_makeRecord (fields : List (String × Value)) :
    Leaves World.channels (makeRecord fields) := by
  refine (leaves_channels_allocate _).bind fun r => ?_
  refine Leaves.bind (Leaves.forIn fun p _ => ?_) fun _ => Leaves.pure r
  exact (leaves_channels_modifyObject _ _).bind fun _ => Leaves.pure _

theorem spares_channels_raise (name message : String) :
    Spares World.channels (raise name message : Machine α) :=
  Spares.bind (leaves_get.bind fun _ => leaves_channels_allocate _).spares fun _ => .throw _

/-! ## Computations as dialogues -/

variable {Q : Type}

/-- A computation as a step that asks nothing. -/
def hosted (x : Machine α) : Talk World Q Stop α := Talk.lift fun w => run w x

theorem hosted_run {w w' : World} {x : Machine α} {r : Except Stop α} (h : run w x = (r, w')) :
    (hosted x : Talk World Q Stop α) w = .done r w' := by
  show Stage.done (run w x).1 (run w x).2 = _
  rw [h]

theorem hosted_bind_run {w w' : World} {x : Machine α} {a : α} (h : run w x = (.ok a, w'))
    (f : α → Talk World Q Stop β) : (hosted x >>= f) w = f a w' := by
  rw [Talk.bind_run, hosted_run h]
  rfl

/-- With `host` for the answers, the dialogue does what the computation does. -/
def Carries (host : Q → Machine Unit) (t : Talk World Q Stop α) (x : Machine α) : Prop :=
  ∀ w, (t w).perform (fun q w => run w (host q)) = run w x

namespace Carries

variable {host : Q → Machine Unit}

theorem pure (a : α) : Carries host (Pure.pure a) (Pure.pure a) := fun _ => rfl

theorem hosted (x : Machine α) : Carries host (Guest.hosted x) x := fun _ => rfl

theorem ask (q : Q) : Carries host (Talk.ask q) (host q) := fun _ => rfl

theorem throw (e : Stop) : Carries host (MonadExceptOf.throw e : Talk World Q Stop α)
    (MonadExceptOf.throw e : Machine α) := fun _ => rfl

theorem bind {t : Talk World Q Stop α} {x : Machine α} {f : α → Talk World Q Stop β}
    {g : α → Machine β} (ht : Carries host t x) (hf : ∀ a, Carries host (f a) (g a)) :
    Carries host (t >>= f) (x >>= g) := by
  intro w
  refine (Stage.perform_bind _ f (t w)).trans ?_
  rw [ht w, run_bind]
  cases run w x with
  | mk r w' =>
    cases r with
    | ok a => exact hf a w'
    | error e => rfl

theorem tryCatch {t : Talk World Q Stop α} {x : Machine α} {f : Stop → Talk World Q Stop α}
    {g : Stop → Machine α} (ht : Carries host t x) (hf : ∀ e, Carries host (f e) (g e)) :
    Carries host (tryCatchThe Stop t f) (tryCatchThe Stop x g) := by
  intro w
  refine (Stage.perform_handle _ f (t w)).trans ?_
  rw [ht w, run_tryCatch]
  cases run w x with
  | mk r w' =>
    cases r with
    | ok a => rfl
    | error e => exact hf e w'

end Carries

/-! ## A guest that does nothing -/

/-- Every function returns at once. -/
def idleCall : Call := fun _ _ _ => pure .undefined

/-- A host without files. -/
def bareSurroundings : Surroundings where
  host := Host.Tree.access {}
  currentPath := .ok "/"
  compile _ := none

end GuestLint.Guest
