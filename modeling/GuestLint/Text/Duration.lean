import GuestLint.Text.Basic
/-!
# Written durations

A duration as seconds and nanoseconds, written in the largest unit that leaves a whole part, with
the fraction that is needed to be exact.
-/
namespace GuestLint

structure Duration where
  nanoseconds : Nat
  deriving Repr, DecidableEq

namespace Duration

def ofMillis (n : Nat) : Duration := ⟨n * 1000000⟩

def ofSeconds (n : Nat) : Duration := ⟨n * 1000000000⟩

/-- A fraction of `width` digits, without the zeros at its end. -/
def fraction (width n : Nat) : List Char :=
  let digits := Text.padStart width '0' (Text.digits 10 n)
  match (digits.reverse.dropWhile (· == '0')).reverse with
  | [] => []
  | digits => '.' :: digits

/-- A count of units with a fraction. -/
def inUnit (n : Nat) (size width : Nat) (unit : String) : String :=
  String.ofList (Text.digits 10 (n / size) ++ fraction width (n % size)) ++ unit

/-- The written form. -/
def text (d : Duration) : String :=
  let n := d.nanoseconds
  if 1000000000 ≤ n then inUnit n 1000000000 9 "s"
  else if 1000000 ≤ n then inUnit n 1000000 6 "ms"
  else if 1000 ≤ n then inUnit n 1000 3 "µs"
  else toString n ++ "ns"

end Duration
end GuestLint
