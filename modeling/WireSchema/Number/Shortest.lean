import WireSchema.Number.Binary

/-!
# Shortest decimals

The decimal with the fewest digits that reads back as a given binary number, and among those of
equal length the one nearest to it.

A binary number `m · 2 ^ e` is read back from every decimal nearer to it than to its neighbours.
The digits are searched on grids of growing fineness: on the grid of `n`-digit decimals only the two
grid points around the number need a look, and the first grid with a point inside the interval of
decimals that read back has the shortest digits.
-/

namespace WireSchema.Number

/-- The decimal `coefficient · 10 ^ exponent`. -/
structure Decimal where
  /-- The digits as a number. -/
  coefficient : Nat
  /-- The power of ten of the last digit. -/
  exponent : Int
deriving DecidableEq

/-- What to do when two shortest decimals are equally near. -/
inductive Tie
  /-- Take the larger one. -/
  | up
  /-- Take the one with an even last digit. -/
  | even
deriving DecidableEq

/-- The interval of reals that read back as a binary number, in units of `2 ^ unit`. -/
structure Rounding where
  /-- Lower end. -/
  low : Nat
  /-- The number itself. -/
  value : Nat
  /-- Upper end. -/
  high : Nat
  /-- The power of two of the unit. -/
  unit : Int
  /-- Do the ends read back too? -/
  closed : Bool
deriving DecidableEq

/-- The interval around `mantissa · 2 ^ exponent`. Below the smallest mantissa the neighbours lie
    twice as close. Ties of reading go to the even mantissa, so the ends belong to an even one. -/
def BinaryFormat.rounding (f : BinaryFormat) (mantissa : Nat) (exponent : Int) : Rounding where
  low := if mantissa = Nat.pow 2 f.fractionBits then 4 * mantissa - 1 else 4 * mantissa - 2
  value := 4 * mantissa
  high := 4 * mantissa + 2
  unit := exponent - 2
  closed := mantissa % 2 == 0

/-- The factors `(p, q)` with `c · 10 ^ j ≤ x · 2 ^ u` exactly when `c * p ≤ x * q`. -/
def scaleFactors (j u : Int) : Nat × Nat :=
  (Nat.pow 10 j.toNat * Nat.pow 2 (-u).toNat, Nat.pow 2 u.toNat * Nat.pow 10 (-j).toNat)

/-- No positive number of a format here is below ten to the minus this power. -/
def deepestPower : Nat := 324

/-- The power of ten of the first digit of `x · 2 ^ u`. -/
def leadingPower (x : Nat) (u : Int) : Int :=
  let scaled := x * Nat.pow 2 u.toNat * Nat.pow 10 deepestPower / Nat.pow 2 (-u).toNat
  ((Nat.toDigits 10 scaled).length : Int) - 1 - deepestPower

/-- Does the grid point `c · 10 ^ j` read back? -/
def Rounding.contains (r : Rounding) (c : Nat) (j : Int) : Bool :=
  let (p, q) := scaleFactors j r.unit
  if r.closed then r.low * q ≤ c * p && c * p ≤ r.high * q
  else r.low * q < c * p && c * p < r.high * q

/-- The grid point at `10 ^ j` that reads back and is nearest to the number, if there is one. -/
def Rounding.onGrid (r : Rounding) (tie : Tie) (j : Int) : Option Nat :=
  let (p, q) := scaleFactors j r.unit
  let below := r.value * q / p
  let above := below + 1
  match r.contains below j, r.contains above j with
  | false, false => none
  | true, false => some below
  | false, true => some above
  | true, true =>
    let twice := 2 * (r.value * q)
    let middle := (below + above) * p
    if twice < middle then some below
    else if middle < twice then some above
    else
      match tie with
      | .up => some above
      | .even => some (if below % 2 = 0 then below else above)

/-- Searches the grids of `digits`, `digits + 1`, … digits, at most `tries` of them. -/
def Rounding.search (r : Rounding) (tie : Tie) (lead : Int) : Nat → Nat → Decimal
  | 0, digits => ⟨r.value * (scaleFactors (lead + 1 - digits) r.unit).2 /
      (scaleFactors (lead + 1 - digits) r.unit).1, lead + 1 - digits⟩
  | tries + 1, digits =>
    match r.onGrid tie (lead + 1 - digits) with
    | some c => ⟨c, lead + 1 - digits⟩
    | none => r.search tie lead tries (digits + 1)

/-- Digits that always suffice: seventeen tell any two numbers of 64 bits apart. -/
def enoughDigits : Nat := 17

/-- Drops the trailing zeros of a coefficient, at most `steps` of them. -/
def Decimal.trim (d : Decimal) : Nat → Decimal
  | 0 => d
  | steps + 1 =>
    if d.coefficient ≠ 0 ∧ d.coefficient % 10 = 0 then
      Decimal.trim ⟨d.coefficient / 10, d.exponent + 1⟩ steps
    else d

/-- The shortest decimal that reads back as the positive number `mantissa · 2 ^ exponent`. -/
def BinaryFormat.shortest (f : BinaryFormat) (tie : Tie) (mantissa : Nat) (exponent : Int) :
    Decimal :=
  let r := f.rounding mantissa exponent
  (r.search tie (leadingPower r.value r.unit) enoughDigits 1).trim enoughDigits

end WireSchema.Number
