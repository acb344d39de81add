/-!
# Code that is interrupted by the guest

A stream calls its listeners in the middle of a delivery, and the module rule runs a body in the
middle of a load. What is called is guest code: until it comes back it may do anything, and it may
enter the very code that waits for it.

* `Talk`: code on a state that asks questions; every question hands the state over, and the answer
  brings back whatever state the guest has left.
* `perform`: the code run to its end by a host that answers its questions.
* `step`, `run`: the code as a machine with a stack of calls that wait for an answer. The guest
  is a list of moves: it starts operations, it answers the innermost question, normally or by
  throwing, and in between it changes the state within the bounds of `Spares`.
* `run_inv`: what every move keeps of the state and of what has happened, every run keeps.
-/
namespace GuestLint.Dialogue

/-! ## Code -/

/-- Code up to its next question. -/
inductive Stage (S Q E α : Type) where
  | done (result : Except E α) (state : S)
  | ask (question : Q) (state : S) (next : Except E Unit → S → Stage S Q E α)

variable {S Q E α β : Type}

def Stage.bind (f : α → S → Stage S Q E β) : Stage S Q E α → Stage S Q E β
  | .done (.ok a) s => f a s
  | .done (.error e) s => .done (.error e) s
  | .ask q s next => .ask q s fun r s => (next r s).bind f

def Stage.handle (f : E → S → Stage S Q E α) : Stage S Q E α → Stage S Q E α
  | .done (.ok a) s => .done (.ok a) s
  | .done (.error e) s => f e s
  | .ask q s next => .ask q s fun r s => (next r s).handle f

/-- Code on states `S` that asks questions `Q` and may throw `E`. -/
def Talk (S Q E α : Type) : Type := S → Stage S Q E α

instance : Monad (Talk S Q E) where
  pure a := fun s => .done (.ok a) s
  bind t f := fun s => (t s).bind f

instance : MonadExceptOf E (Talk S Q E) where
  throw e := fun s => .done (.error e) s
  tryCatch t f := fun s => (t s).handle f

namespace Talk

/-- A step that asks nothing. -/
def lift (f : S → Except E α × S) : Talk S Q E α := fun s => .done (f s).1 (f s).2

/-- Asks a question, and throws what its answer throws. -/
def ask (q : Q) : Talk S Q E Unit := fun s => .ask q s .done

/-- Goes on with code after an answer, unless the answer throws. -/
def resume (t : Talk S Q E α) : Except E Unit → S → Stage S Q E α
  | .ok _, s => t s
  | .error e, s => .done (.error e) s

theorem bind_run (t : Talk S Q E α) (f : α → Talk S Q E β) (s : S) :
    (t >>= f) s = (t s).bind f := rfl

theorem ask_bind_run (q : Q) (t : Talk S Q E α) (s : S) :
    (ask q >>= fun _ => t : Talk S Q E α) s = .ask q s (resume t) := by
  show Stage.ask q s _ = _
  congr 1
  funext r s'
  cases r <;> rfl

theorem resume_pure : resume (pure () : Talk S Q E Unit) = Stage.done := by
  funext r s
  cases r <;> rfl

end Talk

/-! ## Running code to its end -/

/-- Runs code to its end; `host` answers the questions. -/
def Stage.perform (host : Q → S → Except E Unit × S) : Stage S Q E α → Except E α × S
  | .done r s => (r, s)
  | .ask q s next => (next (host q s).1 (host q s).2).perform host

theorem Stage.perform_bind (host : Q → S → Except E Unit × S) (f : α → S → Stage S Q E β)
    (t : Stage S Q E α) :
    (t.bind f).perform host =
      match t.perform host with
      | (.ok a, s) => (f a s).perform host
      | (.error e, s) => (.error e, s) := by
  induction t with
  | done r s => cases r <;> rfl
  | ask q s next ih => exact ih _ _

theorem Stage.perform_handle (host : Q → S → Except E Unit × S) (f : E → S → Stage S Q E α)
    (t : Stage S Q E α) :
    (t.handle f).perform host =
      match t.perform host with
      | (.ok a, s) => (.ok a, s)
      | (.error e, s) => (f e s).perform host := by
  induction t with
  | done r s => cases r <;> rfl
  | ask q s next ih => exact ih _ _

/-! ## The machine -/

/-- A call that waits for the answer to a question. -/
structure Frame (S Q E A : Type) where
  question : Q
  next : Except E Unit → S → Stage S Q E A

/-- The state, and the calls that wait, innermost first. -/
structure Conf (S Q E A : Type) where
  state : S
  frames : List (Frame S Q E A) := []

/-- What the guest does next. `Spares` bounds how it may change the state on its own, given the
questions that wait for an answer. -/
inductive Move (Op S Q E : Type) (Spares : List Q → S → S → Prop) where
  | call (op : Op)
  | answer (result : Except E Unit)
  | between (f : List Q → S → S) (spares : ∀ qs s, Spares qs s (f qs s))

inductive Event (Op Q E A : Type) where
  | called (op : Op)
  | asked (question : Q)
  | answered (question : Q) (result : Except E Unit)
  | ended (result : Except E A)

variable {Op A : Type} {Spares : List Q → S → S → Prop}

namespace Conf

/-- The questions that wait for an answer, innermost first. -/
def questions (c : Conf S Q E A) : List Q := c.frames.map (·.question)

/-- Hands control back to the guest: the code has ended, or it waits for an answer. -/
def settle (frames : List (Frame S Q E A)) : Stage S Q E A → Conf S Q E A × Event Op Q E A
  | .done r s => (⟨s, frames⟩, .ended r)
  | .ask q s next => (⟨s, ⟨q, next⟩ :: frames⟩, .asked q)

/-- One move of the guest, where `code` is what its operations do. An answer that nobody waits
for changes nothing. -/
def step (code : Op → Talk S Q E A) (c : Conf S Q E A) :
    Move Op S Q E Spares → Conf S Q E A × List (Event Op Q E A)
  | .call op => ((settle c.frames (code op c.state) : _ × Event Op Q E A).1,
      [.called op, (settle c.frames (code op c.state)).2])
  | .answer r =>
    match c.frames with
    | [] => (c, [])
    | f :: rest => ((settle rest (f.next r c.state) : _ × Event Op Q E A).1,
        [.answered f.question r, (settle rest (f.next r c.state)).2])
  | .between f _ => ({ c with state := f c.questions c.state }, [])

/-- What a list of moves leads to, and what happens on the way. -/
def run (code : Op → Talk S Q E A) (c : Conf S Q E A) :
    List (Move Op S Q E Spares) → Conf S Q E A × List (Event Op Q E A)
  | [] => (c, [])
  | m :: ms => (((c.step code m).1.run code ms).1,
      (c.step code m).2 ++ ((c.step code m).1.run code ms).2)

def after (code : Op → Talk S Q E A) (c : Conf S Q E A) (ms : List (Move Op S Q E Spares)) :
    Conf S Q E A := (c.run code ms).1

def events (code : Op → Talk S Q E A) (c : Conf S Q E A) (ms : List (Move Op S Q E Spares)) :
    List (Event Op Q E A) := (c.run code ms).2

variable {code : Op → Talk S Q E A}

theorem events_append (c : Conf S Q E A) (ms rest : List (Move Op S Q E Spares)) :
    c.events code (ms ++ rest) = c.events code ms ++ (c.after code ms).events code rest := by
  induction ms generalizing c with
  | nil => rfl
  | cons m ms ih => exact (congrArg (_ ++ ·) (ih _)).trans (List.append_assoc _ _ _).symm

/-- What every move keeps of the state and of what has happened, every run keeps. -/
theorem run_inv {P : Conf S Q E A → List (Event Op Q E A) → Prop}
    (hstep : ∀ c past, P c past → ∀ m : Move Op S Q E Spares,
      P (c.step code m).1 (past ++ (c.step code m).2))
    {c : Conf S Q E A} {past : List (Event Op Q E A)} (h : P c past)
    (ms : List (Move Op S Q E Spares)) : P (c.after code ms) (past ++ c.events code ms) := by
  induction ms generalizing c past with
  | nil =>
    show P c (past ++ [])
    rw [List.append_nil]
    exact h
  | cons m ms ih =>
    have hlater := ih (hstep c past h m)
    rw [List.append_assoc] at hlater
    exact hlater

end Conf
end GuestLint.Dialogue
