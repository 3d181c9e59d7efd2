import DebtMarket.Text.Digits

/-! Decimal numbers with a fixed scale. A decimal is a sign, a magnitude of less than 96
bits and a scale of at most 28 places; its text keeps sign and scale, its order sees
neither the scale nor the sign of zero.
-/

namespace DebtMarket

/-- The number `± magnitude / 10 ^ scale`. -/
structure Decimal where
  negative : Bool
  magnitude : Nat
  scale : Nat
  magnitude_lt : magnitude < Nat.pow 2 96
  scale_le : scale ≤ 28
deriving DecidableEq, Repr

namespace Decimal

/-- Magnitudes stay below this bound. -/
def bound : Nat :=
  Nat.pow 2 96

/-- The greatest number of decimal places. -/
def maxScale : Nat :=
  28

/-- The decimal of a sign, a magnitude and a scale, if both are in range; zero takes no
sign.
-/
def make? (negative : Bool) (magnitude scale : Nat) : Option Decimal :=
  if h : magnitude < Nat.pow 2 96 ∧ scale ≤ 28 then
    some
      {
        negative := negative && magnitude != 0,
        magnitude := magnitude,
        scale := scale,
        magnitude_lt := h.1,
        scale_le := h.2
      }
  else none

/-- The decimal of a whole number, if its magnitude is in range. -/
def ofInt? (n : Int) : Option Decimal :=
  make? (n < 0) n.natAbs 0

/-- The number in units of the smallest place, by which decimals compare. -/
def value (d : Decimal) : Int :=
  (if d.negative then -(d.magnitude : Int) else d.magnitude) * Nat.pow 10 (28 - d.scale)

/-- Decimals compare by value: `1` and `1.00` are equal in this order. -/
def compare (a b : Decimal) : Ordering :=
  Ord.compare a.value b.value

/-- Whether a decimal is above zero. -/
def isPositive (d : Decimal) : Bool :=
  !d.negative && 0 < d.magnitude

/-- The digits of a magnitude with a point in front of the last `scale` of them. -/
def magnitudeText (magnitude scale : Nat) : List Char :=
  if scale = 0 then Text.digits magnitude
  else
    let ds := Text.paddedDigits (scale + 1) magnitude
    ds.take (ds.length - scale) ++ '.' :: ds.drop (ds.length - scale)

/-- The text of a decimal with its sign and scale kept. -/
def chars (d : Decimal) : List Char :=
  let magnitude := magnitudeText d.magnitude d.scale
  if d.negative then '-' :: magnitude else magnitude

/-- The text of a decimal as a string. -/
def text (d : Decimal) : String :=
  String.ofList d.chars

instance : ToString Decimal :=
  ⟨text⟩

end Decimal

end DebtMarket
