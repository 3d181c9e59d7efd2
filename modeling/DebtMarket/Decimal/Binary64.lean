import DebtMarket.Text.Digits

/-! Doubles and their shortest decimals. A finite double is a significand of at most 53
bits times a power of two. All work is exact arithmetic on natural numbers: a quotient is
rounded to the nearest double, ties to the even significand, and a double is written with
the fewest digits that round back to it.
-/

namespace DebtMarket

/-- The double `significand · 2 ^ exponent`, without its sign. -/
structure Binary64 where
  significand : Nat
  exponent : Int
deriving DecidableEq, Repr

namespace Binary64

/-- The exponent of the smallest doubles. -/
def minExponent : Int :=
  -1074

/-- The numerator of a double as a fraction. -/
def numerator (x : Binary64) : Nat :=
  x.significand * Nat.pow 2 x.exponent.toNat

/-- The denominator of a double as a fraction. -/
def denominator (x : Binary64) : Nat :=
  Nat.pow 2 (-x.exponent).toNat

/-- A quotient as a whole number, a half rounded to the even neighbour. -/
def roundedQuotient (num den : Nat) : Nat :=
  let q := num / den
  let twice := 2 * (num % den)
  if twice > den || (twice == den && q % 2 == 1) then q + 1 else q

/-- The double nearest to a quotient, or none when that is infinite. -/
def nearest? (num den : Nat) : Option Binary64 :=
  if num = 0 then some ⟨0, minExponent⟩
  else
    let start := (Nat.log2 num : Int) - Nat.log2 den - 53
    let scaled (e : Int) : Nat × Nat := (num * Nat.pow 2 (-e).toNat, den * Nat.pow 2 e.toNat)
    let fits (e : Int) : Bool := (scaled e).1 / (scaled e).2 < Nat.pow 2 53
    let e := max minExponent (if fits start then start else start + 1)
    let m := roundedQuotient (scaled e).1 (scaled e).2
    let (m, e) := if m = Nat.pow 2 53 then (Nat.pow 2 52, e + 1) else (m, e)
    if e > 971 then none else some ⟨m, e⟩

/-- The greatest power of ten that is a finite double. -/
def maxPower : Nat :=
  308

/-- The product with the double of a power of ten. -/
def timesPower (x : Binary64) (k : Nat) : Option Binary64 := do
  let p ← nearest? (Nat.pow 10 k) 1
  nearest? (x.numerator * p.numerator) (x.denominator * p.denominator)

/-- The quotient by the double of a power of ten. -/
def overPower (x : Binary64) (k : Nat) : Option Binary64 := do
  let p ← nearest? (Nat.pow 10 k) 1
  nearest? (x.numerator * p.denominator) (x.denominator * p.numerator)

/-- A double scaled by a power of ten in steps that are doubles themselves; two steps down
reach zero from any 64-bit significand.
-/
def scaleByPower : (steps : Nat) → Binary64 → Int → Option Binary64
  | 0, _, _ => some ⟨0, minExponent⟩
  | steps + 1, x, e =>
      if e.natAbs ≤ maxPower then
        if 0 ≤ e then timesPower x e.toNat else overPower x e.natAbs
      else if x.significand = 0 then some x
      else if 0 ≤ e then none
      else do scaleByPower steps (← overPower x maxPower) (e + maxPower)

/-- The double of `digits · 10 ^ exponent`: the double of the digits, scaled. -/
def ofScientific? (digits : Nat) (exponent : Int) : Option Binary64 := do
  scaleByPower 3 (← nearest? digits 1) exponent

/-- The least power of ten that lifts a double to one or more. -/
def lift (x : Binary64) : Nat :=
  ((List.range 400).find? fun j => x.numerator * Nat.pow 10 j ≥ x.denominator).getD 0

/-- The exponent of the first decimal digit. -/
def decimalExponent (x : Binary64) : Int :=
  if x.numerator ≥ x.denominator then
    (Text.digits (x.numerator / x.denominator)).length - 1
  else -(x.lift : Int)

/-- The nearest multiple of a power of ten that rounds back to the double, if one of the
two neighbouring multiples does; of two equally near the greater.
-/
def onGrid? (x : Binary64) (place : Int) : Option Nat :=
  let quarter := x.exponent - 2
  let p := Nat.pow 10 place.toNat * Nat.pow 2 (-quarter).toNat
  let q := Nat.pow 10 (-place).toNat * Nat.pow 2 quarter.toNat
  let middle := 4 * x.significand * q
  let below := if x.significand = Nat.pow 2 52 ∧ x.exponent > minExponent then 1 else 2
  let low := (4 * x.significand - below) * q
  let high := (4 * x.significand + 2) * q
  let inside (n : Nat) : Bool :=
    if x.significand % 2 = 0 then low ≤ n * p && n * p ≤ high
    else low < n * p && n * p < high
  let down := middle / p
  match inside down, inside (down + 1) with
  | true, true =>
      if middle - down * p < (down + 1) * p - middle then some down else some (down + 1)
  | true, false => some down
  | false, true => some (down + 1)
  | false, false => none

/-- The fewest digits that round back to the double, with the exponent of the last one. A
double just below a power of ten may round to that power, which has a single digit.
-/
def shortest (x : Binary64) : Nat × Int :=
  if x.significand = 0 then (0, 0)
  else
    let top := decimalExponent x
    ((List.range 17).findSome? fun (n : Nat) =>
      let place := top - n
      (onGrid? x place).map fun digits =>
        if digits = 10 then (1, place + 1) else (digits, place)).getD (0, 0)

end Binary64

end DebtMarket
