import GuestLint.Number.Double
/-!
# Shortest decimals

The fewest decimal digits that read back to a given double, and of those the nearest. The reals
that round to `m * 2 ^ q` form an interval around it, closed exactly when `m` is even. For one
digit, two digits and so on the two neighbours of the value on that decimal grid are tried; the
first grid with a hit wins, of two hits the nearer one, and a tie goes to the even digit.
-/
namespace GuestLint.Shortest

/-- A fraction of naturals. -/
structure Ratio where
  num : Nat
  den : Nat

/-- `m * 2 ^ q`. -/
def binary (m : Nat) (q : Int) : Ratio :=
  if q < 0 then ⟨m, Nat.pow 2 (-q).toNat⟩ else ⟨m * Nat.pow 2 q.toNat, 1⟩

/-- `d * 10 ^ k`. -/
def decimal (d : Nat) (k : Int) : Ratio :=
  if k < 0 then ⟨d, Nat.pow 10 (-k).toNat⟩ else ⟨d * Nat.pow 10 k.toNat, 1⟩

def Ratio.lt (a b : Ratio) : Bool :=
  a.num * b.den < b.num * a.den

def Ratio.le (a b : Ratio) : Bool :=
  a.num * b.den ≤ b.num * a.den

/-- Whether a decimal reads back to `m * 2 ^ q`: it lies between the midpoints to the two
neighbours. Below the least mantissa of a binade the neighbour is half as far away. -/
def readsBack (m : Nat) (q : Int) (r : Ratio) : Bool :=
  let narrow := m = Nat.pow 2 52 ∧ -1074 < q
  let low := if narrow then binary (4 * m - 1) (q - 2) else binary (2 * m - 1) (q - 1)
  let high := binary (2 * m + 1) (q - 1)
  if m % 2 = 0 then low.le r && r.le high else low.lt r && r.lt high

/-- The least `k` from `start` on, within `fuel` steps, with `r < 10 ^ k`. -/
def scaleFrom (r : Ratio) : Nat → Int → Int
  | 0, k => k
  | fuel + 1, k => if r.lt (decimal 1 k) then k else scaleFrom r fuel (k + 1)

/-- The least `k` with `r < 10 ^ k`, for a fraction in the range of doubles. -/
def scale (m : Nat) (q : Int) : Int :=
  let bitLength : Int := Int.ofNat m.log2 + q
  let guess := bitLength * 30103 / 100000 - 1
  scaleFrom (binary m q) 6 guess

/-- The hit on the grid of `10 ^ k`, if there is one. -/
def onGrid (m : Nat) (q k : Int) (value : Ratio) : Option Nat :=
  let unit := decimal 1 k
  let below := value.num * unit.den / (value.den * unit.num)
  let hitBelow := below ≠ 0 ∧ readsBack m q (decimal below k)
  let hitAbove := readsBack m q (decimal (below + 1) k)
  if hitBelow then
    if hitAbove then
      let middle := decimal (2 * below + 1) k
      let twice : Ratio := ⟨2 * value.num, value.den⟩
      if twice.lt middle then some below
      else if middle.lt twice then some (below + 1)
      else some (if below % 2 = 0 then below else below + 1)
    else some below
  else if hitAbove then some (below + 1)
  else none

/-- The first hit on the grids of `n`, `n + 1`, … digits below `10 ^ top`. -/
def search (m : Nat) (q top : Int) : Nat → Int → Option (Nat × Int)
  | 0, _ => none
  | fuel + 1, n =>
    match onGrid m q (top - n) (binary m q) with
    | some d => some (d, top - n)
    | none => search m q top fuel (n + 1)

/-- Moves the zeros at the end of the digits into the exponent. -/
def strip : Nat → Nat → Int → Nat × Int
  | 0, d, k => (d, k)
  | fuel + 1, d, k => if d % 10 = 0 ∧ d ≠ 0 then strip fuel (d / 10) (k + 1) else (d, k)

/-- The digits and the exponent of the shortest decimal of `m * 2 ^ q`, for a positive `m`. -/
def decimalOf (m : Nat) (q : Int) : Nat × Int :=
  match search m q (scale m q) 17 1 with
  | some (d, k) => strip 20 d k
  | none =>
    -- the exact value: its last digit stands at ten to the power of `q`
    if q < 0 then (m * Nat.pow 5 (-q).toNat, q) else (m * Nat.pow 2 q.toNat, 0)

end GuestLint.Shortest
