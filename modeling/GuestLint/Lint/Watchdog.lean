import GuestLint.Text.Duration
/-!
# Limits on a run

A run may be given a time limit and may be cancelled. The watchdog is asked again and again whether
the run has to stop; a cancellation is told before an expired limit.

* `Watchdog.start` refuses a limit that ends beyond the last instant the clock can show.
-/
namespace GuestLint.Lint

/-- Nanoseconds since the clock's start. -/
abbrev Instant := Nat

/-- The first second that a clock of 64 bits cannot show. -/
def clockSeconds : Nat := Nat.pow 2 63

/-- The instant some time later, unless the clock cannot show it. -/
def Instant.after (now : Instant) (d : Duration) : Option Instant :=
  let later := now + d.nanoseconds
  if later < clockSeconds * 1000000000 then some later else none

/-- Why a run has to stop. -/
inductive Halt where
  | cancelled
  | timeout (limit : Duration)
  deriving Repr, DecidableEq

structure Watchdog where
  /-- The instant at which the time is up, and the limit that was set. -/
  deadline : Option (Instant × Duration) := none
  cancelled : Bool := false
  deriving Repr, DecidableEq

namespace Watchdog

/-- The watchdog of a run that starts now. -/
def start (now : Instant) (limit : Option Duration) (cancelled : Bool) : Option Watchdog :=
  match limit with
  | none => some ⟨none, cancelled⟩
  | some d => (Instant.after now d).map fun deadline => ⟨some (deadline, d), cancelled⟩

/-- Whether the run may go on. -/
def check (w : Watchdog) (now : Instant) : Except Halt Unit :=
  if w.cancelled then .error .cancelled
  else
    match w.deadline with
    | some (deadline, limit) => if deadline ≤ now then .error (.timeout limit) else .ok ()
    | none => .ok ()

end Watchdog
end GuestLint.Lint
