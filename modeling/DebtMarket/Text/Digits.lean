/-! Natural numbers in digits. Writing gives the shortest form or a form padded with zeros
to a width; reading takes a run of ASCII digits off the front of a text. Hexadecimal
digits are read too.
-/

namespace DebtMarket.Text

/-- The character of a digit below ten. -/
def digitChar (d : Nat) : Char :=
  Char.ofNat (48 + d % 10)

/-- The digits of a number, most significant first, with no leading zero. -/
def digits (n : Nat) : List Char :=
  if n < 10 then [digitChar n] else digits (n / 10) ++ [digitChar n]
termination_by n
decreasing_by omega

/-- The digits of a number with zeros in front up to a width. -/
def paddedDigits (width n : Nat) : List Char :=
  let ds := digits n
  List.replicate (width - ds.length) '0' ++ ds

/-- The value of an ASCII digit. -/
def digitValue (c : Char) : Nat :=
  c.toNat - 48

/-- The number that a run of digits stands for. -/
def digitsValue (cs : List Char) : Nat :=
  cs.foldl (fun n c => 10 * n + digitValue c) 0

/-- At least one and at most `most` digits off the front of a text, and what follows. -/
def takeDigits (most : Nat) (cs : List Char) : Option (List Char × List Char) :=
  let run := (cs.take most).takeWhile Char.isDigit
  if run.isEmpty then none else some (run, cs.drop run.length)

/-- A number of one to `most` digits off the front of a text, and what follows. -/
def takeNumber (most : Nat) (cs : List Char) : Option (Nat × List Char) :=
  (takeDigits most cs).map fun (run, rest) => (digitsValue run, rest)

/-- A number written with exactly `width` digits, and what follows. -/
def takeFixed (width : Nat) (cs : List Char) : Option (Nat × List Char) := do
  let (run, rest) ← takeDigits width cs
  if run.length = width then some (digitsValue run, rest) else none

/-- Whether a minus stands in front of a number, and what follows its sign. -/
def takeSign : List Char → Bool × List Char
  | '-' :: rest => (true, rest)
  | '+' :: rest => (false, rest)
  | cs => (false, cs)

/-- The value of a hexadecimal digit in either case. -/
def hexValue? (c : Char) : Option Nat :=
  if c.isDigit then some (c.toNat - 48)
  else if 'a' ≤ c ∧ c ≤ 'f' then some (c.toNat - 87)
  else if 'A' ≤ c ∧ c ≤ 'F' then some (c.toNat - 55)
  else none

/-- The number that a run of hexadecimal digits stands for. -/
def hexNumber? (cs : List Char) : Option Nat :=
  cs.foldlM (fun n c => (hexValue? c).map (16 * n + ·)) 0

/-- The shortest decimal text of a number. -/
def numeral (n : Nat) : String :=
  String.ofList (digits n)

end DebtMarket.Text
