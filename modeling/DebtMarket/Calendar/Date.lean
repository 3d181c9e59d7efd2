import DebtMarket.Text.Blank
import DebtMarket.Text.Digits
import DebtMarket.Json.Codec

/-! Calendar days. A date is a day of the Gregorian calendar, carried on before its start,
in the years from -262143 to 262142. Dates are ordered as days, and their text is year,
month and day between hyphens.
-/

namespace DebtMarket

/-- Whether a year has a 29th of February. -/
def isLeapYear (year : Int) : Bool :=
  year % 4 == 0 && (year % 100 != 0 || year % 400 == 0)

/-- The number of days of a month. -/
def daysInMonth (year : Int) (month : Nat) : Nat :=
  match month with
  | 2 => if isLeapYear year then 29 else 28
  | 4 | 6 | 9 | 11 => 30
  | _ => 31

/-- A day of the calendar. -/
structure Date where
  year : Int
  month : Nat
  day : Nat
  year_mem : -262143 ≤ year ∧ year ≤ 262142
  month_mem : 1 ≤ month ∧ month ≤ 12
  day_mem : 1 ≤ day ∧ day ≤ daysInMonth year month
deriving DecidableEq, Repr

namespace Date

/-- The date of a year, a month and a day, if there is one. -/
def make? (year : Int) (month day : Nat) : Option Date :=
  if h : (-262143 ≤ year ∧ year ≤ 262142) ∧ (1 ≤ month ∧ month ≤ 12)
      ∧ (1 ≤ day ∧ day ≤ daysInMonth year month) then
    some ⟨year, month, day, h.1, h.2.1, h.2.2⟩
  else none

/-- A number that grows with the date: months of 32 days leave gaps but keep the order. -/
def rank (d : Date) : Int :=
  (d.year * 12 + d.month) * 32 + d.day

/-- The number of days since the first of January 1970. A year is counted from March, so
that the leap day ends it.
-/
def dayNumber (d : Date) : Int :=
  let y := if d.month ≤ 2 then d.year - 1 else d.year
  let monthsFromMarch : Int := (d.month + 9) % 12
  let dayOfYear := (153 * monthsFromMarch + 2) / 5 + d.day - 1
  y * 365 + y / 4 - y / 100 + y / 400 + dayOfYear - 719468

/-- The date of a day number, found through the 400-year cycle of the calendar. -/
def ofDayNumber? (n : Int) : Option Date :=
  let z := n + 719468
  let cycle := z / 146097
  let dayOfCycle := (z % 146097).toNat
  let yearOfCycle :=
    (dayOfCycle - dayOfCycle / 1460 + dayOfCycle / 36524 - dayOfCycle / 146096) / 365
  let dayOfYear := dayOfCycle - (365 * yearOfCycle + yearOfCycle / 4 - yearOfCycle / 100)
  let monthsFromMarch := (5 * dayOfYear + 2) / 153
  let day := dayOfYear - (153 * monthsFromMarch + 2) / 5 + 1
  let month := if monthsFromMarch < 10 then monthsFromMarch + 3 else monthsFromMarch - 9
  let year := cycle * 400 + yearOfCycle
  make? (if month ≤ 2 then year + 1 else year) month day

/-- The date some days later. -/
def addDays? (d : Date) (days : Int) : Option Date :=
  ofDayNumber? (d.dayNumber + days)

/-- The text of a year: four digits, with a sign and as many as needed outside 0 to 9999.
-/
def yearChars (year : Int) : List Char :=
  if 0 ≤ year ∧ year ≤ 9999 then Text.paddedDigits 4 year.natAbs
  else (if year < 0 then '-' else '+') :: Text.paddedDigits 4 year.natAbs

/-- The text of a date. -/
def chars (d : Date) : List Char :=
  yearChars d.year ++ '-' :: Text.paddedDigits 2 d.month
    ++ '-' :: Text.paddedDigits 2 d.day

/-- The text of a date as a string. -/
def text (d : Date) : String :=
  String.ofList d.chars

instance : ToString Date :=
  ⟨text⟩

/-- A year off the front of a text: at most four digits, or a sign and any number of them.
-/
def takeYear (cs : List Char) : Option (Int × List Char) :=
  match Text.trimStart cs with
  | '-' :: rest =>
      (Text.takeNumber rest.length rest).map fun (n, rest) => (-(n : Int), rest)
  | '+' :: rest =>
      (Text.takeNumber rest.length rest).map fun (n, rest) => ((n : Int), rest)
  | cs => (Text.takeNumber 4 cs).map fun (n, rest) => ((n : Int), rest)

/-- The text after blanks and a mark that it has to start with. -/
def takeMark (mark : Char) (cs : List Char) : Option (List Char) :=
  match Text.trimStart cs with
  | c :: rest => if c = mark then some rest else none
  | [] => none

/-- A number of one or two digits after blanks. -/
def takePair (cs : List Char) : Option (Nat × List Char) :=
  Text.takeNumber 2 (Text.trimStart cs)

/-- A date off the front of a text; blanks may stand before each number and each hyphen.
-/
def take (cs : List Char) : Option (Date × List Char) := do
  let (year, rest) ← takeYear cs
  let (month, rest) ← takePair (← takeMark '-' rest)
  let (day, rest) ← takePair (← takeMark '-' rest)
  return (← make? year month day, rest)

/-- The date that a whole text stands for. -/
def read (s : String) : Option Date := do
  let (d, rest) ← take s.toList
  guard (Text.trimStart rest).isEmpty
  return d

/-- In JSON a date is its text. -/
instance : Json.Codec Date where
  encode d := .str d.text
  decode
    | .str s => read s
    | _ => none

end Date

end DebtMarket
