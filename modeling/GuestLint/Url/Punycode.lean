import GuestLint.Text.Basic
/-!
# Punycode

A label of any characters as ASCII letters, digits and hyphens: the ASCII characters first, then the
others in ascending order, each as the distance from the one before, in a base 36 notation whose
thresholds adapt to the distances seen.
-/
namespace GuestLint.Url.Punycode

/-- The letter of a digit below 36. -/
def letter (d : Nat) : Char :=
  Char.ofNat (if d < 26 then 'a'.toNat + d else '0'.toNat + (d - 26))

def value? (c : Char) : Option Nat :=
  if 'a' ≤ c ∧ c ≤ 'z' then some (c.toNat - 'a'.toNat)
  else if 'A' ≤ c ∧ c ≤ 'Z' then some (c.toNat - 'A'.toNat)
  else if '0' ≤ c ∧ c ≤ '9' then some (c.toNat - '0'.toNat + 26)
  else none

/-- The threshold of the digit at weight `k`. -/
def threshold (k bias : Nat) : Nat :=
  min 26 (max 1 (k - bias))

/-- Halves the distance until it is small, and counts the weights passed. -/
def settle : (fuel delta k : Nat) → Nat
  | 0, delta, k => k + 36 * delta / (delta + 38)
  | fuel + 1, delta, k =>
    if 455 < delta then settle fuel (delta / 35) (k + 36) else k + 36 * delta / (delta + 38)

/-- The bias after a distance. -/
def adapt (delta count : Nat) (first : Bool) : Nat :=
  let delta := if first then delta / 700 else delta / 2
  settle 64 (delta + delta / count) 0

/-- The digits of a distance. -/
def distance (bias : Nat) : (fuel q k : Nat) → List Char
  | 0, _, _ => []
  | fuel + 1, q, k =>
    let t := threshold k bias
    if q < t then [letter q]
    else letter (t + (q - t) % (36 - t)) :: distance bias fuel ((q - t) / (36 - t)) (k + 36)

structure State where
  delta : Nat
  bias : Nat
  handled : Nat
  output : List Char

/-- Writes every occurrence of the code point `n`. -/
def placeAll (n basic : Nat) (s : State) : List Nat → State
  | [] => s
  | c :: rest =>
    if c < n then placeAll n basic { s with delta := s.delta + 1 } rest
    else if c = n then
      placeAll n basic
        { delta := 0
          bias := adapt s.delta (s.handled + 1) (s.handled == basic)
          handled := s.handled + 1
          output := s.output ++ distance s.bias 64 s.delta 36 }
        rest
    else placeAll n basic s rest

/-- Writes the code points from `n` on, in ascending order. -/
def placeFrom (codes : List Nat) (basic : Nat) : (fuel n : Nat) → State → List Char
  | 0, _, s => s.output
  | fuel + 1, n, s =>
    match (codes.filter (n ≤ ·)).min? with
    | none => s.output
    | some m =>
      let s := { s with delta := s.delta + (m - n) * (s.handled + 1) }
      let s := placeAll m basic s codes
      placeFrom codes basic fuel (m + 1) { s with delta := s.delta + 1 }

/-- The written form of a label. -/
def encode (label : List Char) : List Char :=
  let basic := label.filter fun c => c.toNat < 128
  let start := if basic.isEmpty then [] else basic ++ ['-']
  placeFrom (label.map Char.toNat) basic.length (label.length + 1) 128 ⟨0, 72, basic.length, start⟩

/-- Reads one distance: its value and what follows. -/
def readDistance (bias : Nat) : List Char → (i w k : Nat) → Option (Nat × List Char)
  | [], _, _, _ => none
  | c :: rest, i, w, k => do
    let d ← value? c
    let i := i + d * w
    let t := threshold k bias
    if Nat.pow 2 32 ≤ i then none
    else if d < t then some (i, rest)
    else readDistance bias rest i (w * (36 - t)) (k + 36)

/-- Reads distances and puts their characters in. -/
def insertAll : (fuel : Nat) → List Char → (n i bias : Nat) → List Char → Option (List Char)
  | 0, _, _, _, _, _ => none
  | _ + 1, output, _, _, _, [] => some output
  | fuel + 1, output, n, i, bias, rest => do
    let (j, rest) ← readDistance bias rest i 1 36
    let count := output.length + 1
    let n := n + j / count
    let place := j % count
    if n.isValidChar then
      insertAll fuel (output.take place ++ Char.ofNat n :: output.drop place) n (place + 1)
        (adapt (j - i) count (i == 0)) rest
    else none

/-- Reads a label. -/
def decode (text : List Char) : Option (List Char) :=
  match Text.cutLast '-' text with
  | some (basic, rest) =>
    if basic.all fun c => c.toNat < 128 then insertAll (text.length + 1) basic 128 0 72 rest
    else none
  | none => insertAll (text.length + 1) [] 128 0 72 text

end GuestLint.Url.Punycode
