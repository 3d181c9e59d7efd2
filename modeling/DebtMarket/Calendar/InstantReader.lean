import DebtMarket.Calendar.Instant

/-! Reading instants. The text is a date, a separator, a time of day and an offset from
universal time. Blanks may stand before each number and mark, before the offset and at the
end; the fraction may have any number of digits, of which nine count.
-/

namespace DebtMarket.Instant

/-- The nanoseconds of a fraction, from the digits that count. -/
def nanoOfDigits (run : List Char) : Nat :=
  let counted := run.take 9
  Text.digitsValue counted * Nat.pow 10 (9 - counted.length)

/-- A fraction of a second off the front of a text, zero when there is none. -/
def takeFraction (cs : List Char) : Option (Nat × List Char) :=
  match cs with
  | '.' :: rest => (Text.takeDigits rest.length rest).map fun (run, rest) =>
      (nanoOfDigits run, rest)
  | cs => some (0, cs)

/-- A second of the day with its nanoseconds off the front of a text. -/
def takeTime (cs : List Char) : Option ((Nat × Nat) × List Char) := do
  let (hour, rest) ← Date.takePair cs
  let (minute, rest) ← Date.takePair (← Date.takeMark ':' rest)
  let (second, rest) ← Date.takePair (← Date.takeMark ':' rest)
  let (nano, rest) ← takeFraction rest
  guard (hour < 24 && minute < 60 && second ≤ 60)
  let base := (hour * 60 + minute) * 60
  if second = 60 then return ((base + 59, 1000000000 + nano), rest)
  else return ((base + second, nano), rest)

/-- The value of a digit of a clock, if it is one and at most `most`. -/
def digitUpTo (most : Nat) (c : Char) : Option Nat :=
  if c.isDigit ∧ Text.digitValue c ≤ most then some (Text.digitValue c) else none

/-- The seconds of an offset after its sign: two digits of hours, colons and blanks, two
of minutes.
-/
def takeSpan : List Char → Option (Nat × List Char)
  | a :: b :: rest => do
      let hours := (← digitUpTo 9 a) * 10 + (← digitUpTo 9 b)
      match rest.dropWhile fun c => c == ':' || Text.isBlank c with
      | c :: d :: rest => do
          let minutes := (← digitUpTo 5 c) * 10 + (← digitUpTo 9 d)
          return (hours * 3600 + minutes * 60, rest)
      | _ => none
  | _ => none

/-- An offset from universal time in seconds off the front of a text. -/
def takeOffset (cs : List Char) : Option (Int × List Char) :=
  match cs with
  | 'Z' :: rest | 'z' :: rest => some (0, rest)
  | '+' :: rest => (takeSpan rest).map fun (n, rest) => ((n : Int), rest)
  | '-' :: rest | '\u2212' :: rest =>
      (takeSpan rest).map fun (n, rest) => (-(n : Int), rest)
  | a :: b :: c :: rest =>
      if [a, b, c].map Char.toUpper = ['U', 'T', 'C'] then some (0, rest) else none
  | _ => none

/-- The instant that a whole text stands for; offsets stay below one day. -/
def read (s : String) : Option Instant := do
  let (date, rest) ← Date.take s.toList
  let rest ← match rest with
    | 'T' :: rest | 't' :: rest | ' ' :: rest => some rest
    | _ => none
  let ((second, nano), rest) ← takeTime rest
  let (offset, rest) ← takeOffset (Text.trimStart rest)
  guard ((Text.trimStart rest).isEmpty && offset.natAbs < 86400)
  if offset = 0 then make? date second nano else shift? date (second - offset) nano

/-- In JSON an instant is its text. -/
instance : Json.Codec Instant where
  encode t := .str t.wireText
  decode
    | .str s => read s
    | _ => none

end DebtMarket.Instant
