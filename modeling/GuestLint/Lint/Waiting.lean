import GuestLint.Lint.Watchdog
/-!
# Waiting for a result

A result that is not there yet may come when more of the queued work is done. Waiting looks at the
result, asks whether the run may go on, and runs one job, until one of them ends it.

The rule is written for any monad, over a `Waiting` that says how to look, to ask and to run.
-/
namespace GuestLint.Lint

/-- What can be seen of a result. -/
inductive Observation (V : Type) where
  | pending
  | resolved (value : V)
  | rejected (reason : V)
  deriving Repr, DecidableEq

/-- How waiting ends. -/
inductive WaitOutcome (V : Type) where
  | resolved (value : V)
  | rejected (reason : V)
  | halted (halt : Halt)
  /-- The result is pending and there is no work left. -/
  | stalled
  deriving Repr, DecidableEq

structure Waiting (m : Type → Type) (V : Type) where
  observe : m (Observation V)
  /-- Whether the run may go on. -/
  check : m (Except Halt Unit)
  /-- Runs one job; answers whether there was one. -/
  runJob : m Bool

/-- Waits for a result; `none` when it is still pending after `fuel` looks. -/
def Waiting.wait {m : Type → Type} [Monad m] {V : Type} (w : Waiting m V) :
    (fuel : Nat) → m (Option (WaitOutcome V))
  | 0 => pure none
  | fuel + 1 => do
    match ← w.observe with
    | .resolved value => pure (some (.resolved value))
    | .rejected reason => pure (some (.rejected reason))
    | .pending =>
      match ← w.check with
      | .error halt => pure (some (.halted halt))
      | .ok () =>
        if ← w.runJob then w.wait fuel else pure (some .stalled)

end GuestLint.Lint
