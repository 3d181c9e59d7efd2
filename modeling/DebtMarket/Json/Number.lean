import DebtMarket.Json.Basic
import DebtMarket.Decimal.Binary64
import DebtMarket.Decimal.Reader

/-! Numbers of JSON. A number without fraction and exponent that fits in 64 bits stays
whole; any other becomes the shortest decimal of its double. Digits past the 64th bit of
the significand no longer count.
-/

namespace DebtMarket.Json

/-- Significands stay below this bound. -/
def significandBound : Nat :=
  Nat.pow 2 64

/-- The digits that fit a 64-bit significand, and how many digits are left over. -/
def takeSignificand : (n : Nat) → List Char → Nat × Nat
  | n, [] => (n, 0)
  | n, c :: rest =>
      let grown := 10 * n + Text.digitValue c
      if grown < significandBound then takeSignificand grown rest
      else (n, rest.length + 1)

/-- The number of the given sign, significand and power of ten, as a double. -/
def realOf? (negative : Bool) (significand : Nat) (exponent : Int) : Option Json :=
  (Binary64.ofScientific? significand exponent).map fun x =>
    let (digits, place) := x.shortest
    .real negative digits place

/-- A number from its written parts. -/
def numberOf? (negative : Bool) (whole : List Char) (fraction : Option (List Char))
    (exponent : Option Int) : Option Json :=
  let (n, spilled) := takeSignificand 0 whole
  match fraction, exponent with
  | none, none =>
      if spilled = 0 then
        if !negative then some (.int n)
        else if 0 < n ∧ n ≤ Nat.pow 2 63 then some (.int (-n))
        else realOf? true n 0
      else realOf? negative n spilled
  | fraction, exponent =>
      let places := fraction.getD []
      let (n, dropped) := takeSignificand n places
      let taken := places.length - dropped
      realOf? negative n ((spilled : Int) - taken + exponent.getD 0)

/-- The sign and digits of an exponent, if the text starts with one. -/
def takeExponent (limit : Nat) (cs : List Char) : Option (Option Int × List Char) :=
  match cs with
  | c :: rest =>
      if c = 'e' ∨ c = 'E' then do
        let (negative, rest) := Text.takeSign rest
        let (run, rest) ← Text.takeDigits limit rest
        let n : Int := Text.digitsValue run
        return (some (if negative then -n else n), rest)
      else some (none, cs)
  | [] => some (none, cs)

/-- The digits of a fraction, if the text starts with a point. -/
def takeFraction (limit : Nat) (cs : List Char)
    : Option (Option (List Char) × List Char) :=
  match cs with
  | '.' :: rest => do
      let (run, rest) ← Text.takeDigits limit rest
      return (some run, rest)
  | cs => some (none, cs)

/-- A number off the front of a text: no leading zeros, digits on both sides of the point,
at most `limit` digits in a run.
-/
def takeNumber (limit : Nat) (cs : List Char) : Option (Json × List Char) := do
  let (negative, rest) := match cs with
    | '-' :: rest => (true, rest)
    | cs => (false, cs)
  let (whole, rest) ← Text.takeDigits limit rest
  guard (whole.length = 1 || whole.head? != some '0')
  let (fraction, rest) ← takeFraction limit rest
  let (exponent, rest) ← takeExponent limit rest
  return (← numberOf? negative whole fraction exponent, rest)

/-- The text of a number between whole digits, without an exponent. -/
def positional (negative : Bool) (digits : Nat) (exponent : Int) : List Char :=
  let magnitude := Decimal.magnitudeText (digits * Nat.pow 10 exponent.toNat) (-exponent).toNat
  if negative then '-' :: magnitude else magnitude

end DebtMarket.Json
