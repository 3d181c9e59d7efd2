import DebtMarket.Decimal.Binary64
import DebtMarket.Toml.Basic

/-! Numbers in TOML. Digits may be grouped by single underscores, decimal numbers have no
leading zero, and integers fit in 64 bits with a sign. A float keeps the text in which it
is written.
-/

namespace DebtMarket.Toml

/-- The digits after the first digit of a number, without the underscores between them. -/
def takeMore (isDigit : Char → Bool) : List Char → List Char × List Char
  | '_' :: d :: rest =>
      if isDigit d then
        let (run, rest) := takeMore isDigit rest
        (d :: run, rest)
      else ([], '_' :: d :: rest)
  | d :: rest =>
      if isDigit d then
        let (run, rest) := takeMore isDigit rest
        (d :: run, rest)
      else ([], d :: rest)
  | [] => ([], [])

/-- The digits of a number, without the underscores between them. -/
def takeRun (isDigit : Char → Bool) : List Char → Option (List Char × List Char)
  | d :: rest =>
      if isDigit d then
        let (run, rest) := takeMore isDigit rest
        some (d :: run, rest)
      else none
  | [] => none

/-- The digits of a decimal number, which is zero or starts with another digit. -/
def takeWhole : List Char → Option (List Char × List Char)
  | '0' :: rest => some (['0'], rest)
  | cs => takeRun Char.isDigit cs

/-- An integer of a sign and a magnitude, if it fits. -/
def ofMagnitude? (negative : Bool) (n : Nat) : Option Toml :=
  if negative then if n ≤ Nat.pow 2 63 then some (.integer (-n)) else none
  else if n < Nat.pow 2 63 then some (.integer n) else none

/-- A number of digits to a base that is a power of two. -/
def takeBased (base : Nat) (cs : List Char) : Option (Toml × List Char) := do
  let isDigit (c : Char) : Bool := (Text.hexValue? c).any (· < base)
  let (run, rest) ← takeRun isDigit cs
  let n := run.foldl (fun n c => base * n + (Text.hexValue? c).getD 0) 0
  return (← ofMagnitude? false n, rest)

/-- An integer off the front of a text. -/
def takeInteger : List Char → Option (Toml × List Char)
  | '0' :: 'x' :: rest => takeBased 16 rest
  | '0' :: 'o' :: rest => takeBased 8 rest
  | '0' :: 'b' :: rest => takeBased 2 rest
  | cs => do
      let (negative, rest) := Text.takeSign cs
      let (run, rest) ← takeWhole rest
      return (← ofMagnitude? negative (Text.digitsValue run), rest)

/-- Whether `digits · 10 ^ exponent` is a finite double. -/
def isFinite (digits : List Char) (exponent : Int) : Bool :=
  let digits := digits.dropWhile (· == '0')
  let places := exponent + digits.length
  digits.isEmpty || places < -400
    || (places < 400
      && (Binary64.nearest? (Text.digitsValue digits * Nat.pow 10 exponent.toNat)
        (Nat.pow 10 (-exponent).toNat)).isSome)

/-- The exponent of a float off the front of a text. -/
def takeExponent : List Char → Option (Int × List Char)
  | 'e' :: rest | 'E' :: rest => do
      let (negative, rest) := Text.takeSign rest
      let (run, rest) ← takeRun Char.isDigit rest
      let n : Int := Text.digitsValue run
      return (if negative then -n else n, rest)
  | _ => none

/-- The fraction and exponent of a float off the front of a text; one of them has to be
there.
-/
def takeTail : List Char → Option ((List Char × Int) × List Char)
  | '.' :: rest => do
      let (places, rest) ← takeRun Char.isDigit rest
      match rest with
      | 'e' :: _ | 'E' :: _ =>
          (takeExponent rest).map fun (e, rest) => ((places, e), rest)
      | rest => return ((places, 0), rest)
  | cs => (takeExponent cs).map fun (e, rest) => (([], e), rest)

/-- The part of a text in front of what is left of it. -/
def written (cs rest : List Char) : String :=
  String.ofList (cs.take (cs.length - rest.length))

/-- A float off the front of a text: a finite number, no number, or infinity by its name.
-/
def takeFloat (cs : List Char) : Option (Toml × List Char) := do
  let (negative, after) := Text.takeSign cs
  match after with
  | 'i' :: 'n' :: 'f' :: rest | 'n' :: 'a' :: 'n' :: rest =>
      return (.float (written cs rest), rest)
  | _ =>
      let (whole, rest) ← takeWhole after
      let ((places, exponent), rest) ← takeTail rest
      guard (negative || isFinite (whole ++ places) (exponent - places.length))
      return (.float (written cs rest), rest)

end DebtMarket.Toml
