import DebtMarket.Decimal.Basic

/-! Reading decimals. A plain number is an optional sign and digits with at most one
point, where underscores may stand anywhere after the first digit. Fraction digits are
taken as long as they fit; the first that does not fit rounds the last one that did. A
text that is not a plain number may be one with an exponent, which is rounded when the
exponent moves digits beyond the last place.
-/

namespace DebtMarket.Decimal

/-- Whether digits are written as a number: underscores only after the first digit, at
least one digit in all, nothing but digits, underscores and points.
-/
def wellFormed (cs : List Char) : Bool :=
  let lead := cs.takeWhile fun c => !c.isDigit
  lead.all (· == '.') && cs.all (fun c => c.isDigit || c == '_' || c == '.')
    && cs.count '.' ≤ 1 && cs.any Char.isDigit

/-- The magnitude rounded by the first digit that did not fit: five and more round up, and
a magnitude that grows out of range gives up its last place.
-/
def roundOff (magnitude scale next : Nat) : Option (Nat × Nat) :=
  if next < 5 then some (magnitude, scale)
  else if magnitude + 1 < bound then some (magnitude + 1, scale)
  else if scale = 0 then none
  else some ((magnitude + 5) / 10, scale - 1)

/-- Short numbers stay below this bound without their last digit. -/
def shortBound : Nat :=
  Nat.pow 2 64 / 10 - 255

/-- Fraction digits taken one by one while place and magnitude stay in range. Underscores
are passed over, but one that follows the last place of a short number ends it unrounded.
-/
def takeFraction : (magnitude scale : Nat) → List Char → Option (Nat × Nat)
  | magnitude, scale, [] => some (magnitude, scale)
  | magnitude, scale, c :: rest =>
      let grown := 10 * magnitude + Text.digitValue c
      if c = '_' then
        if scale = maxScale ∧ magnitude / 10 < shortBound then some (magnitude, scale)
        else takeFraction magnitude scale rest
      else if scale < maxScale ∧ grown < bound then takeFraction grown (scale + 1) rest
      else roundOff magnitude scale (Text.digitValue c)

/-- A number without exponent. -/
def readPlain (cs : List Char) : Option Decimal := do
  let (negative, body) := Text.takeSign cs
  guard (wellFormed body)
  let figures := body.takeWhile (· != '.')
  let whole := Text.digitsValue (figures.filter (· != '_'))
  guard (whole < bound)
  let (magnitude, scale) ← takeFraction whole 0 (body.drop (figures.length + 1))
  make? negative magnitude scale

/-- An unsigned number of 32 bits, after an optional plus sign. -/
def readExponent (cs : List Char) : Option Nat := do
  let ds := match cs with
    | '+' :: rest => rest
    | cs => cs
  guard (!ds.isEmpty && ds.all Char.isDigit)
  let n := Text.digitsValue ds
  guard (n < Nat.pow 2 32)
  return n

/-- A magnitude without its last places, a half rounded up. -/
def withoutPlaces (magnitude places : Nat) : Nat :=
  (magnitude + Nat.pow 10 places / 2) / Nat.pow 10 places

/-- Fewer places keep a magnitude in range. -/
theorem withoutPlaces_lt {magnitude : Nat} (places : Nat) (h : magnitude < Nat.pow 2 96)
    : withoutPlaces magnitude places < Nat.pow 2 96 := by
  have hp : 0 < Nat.pow 10 places := Nat.pow_pos (by decide)
  unfold withoutPlaces
  rw [Nat.div_lt_iff_lt_mul hp]
  generalize Nat.pow 10 places = p at hp ⊢
  simp only [Nat.pow_eq, Nat.reducePow] at h ⊢
  omega

/-- The decimal divided by a power of ten. Digits beyond the last place are rounded away,
and the sign stays even if zero is left.
-/
def shiftDown (d : Decimal) (places : Nat) : Decimal :=
  {
    negative := d.negative,
    magnitude := withoutPlaces d.magnitude (d.scale + places - maxScale),
    scale := min (d.scale + places) maxScale,
    magnitude_lt := withoutPlaces_lt _ d.magnitude_lt,
    scale_le := Nat.min_le_right _ _
  }

/-- The decimal times a power of ten, with no more places than before; a power beyond the
scale gives a whole number.
-/
def shiftUp (d : Decimal) (places : Nat) : Option Decimal := do
  if places ≤ d.scale then
    make? d.negative d.magnitude (d.scale - places)
  else
    guard (places ≤ maxScale)
    make? d.negative (d.magnitude * Nat.pow 10 (places - d.scale)) 0

/-- A plain number, an `e` or `E`, and the power of ten that it is multiplied by. -/
def readScientific (cs : List Char) : Option Decimal := do
  let mark : Char → Bool := fun c => c == 'e' || c == 'E'
  let base ← readPlain (cs.takeWhile fun c => !mark c)
  match (cs.dropWhile fun c => !mark c).drop 1 with
  | '-' :: rest =>
      let places ← readExponent rest
      guard (places ≤ maxScale)
      return shiftDown base places
  | rest => do shiftUp base (← readExponent rest)

/-- The decimal that a text stands for. -/
def read (cs : List Char) : Option Decimal :=
  readPlain cs <|> readScientific cs

end DebtMarket.Decimal
