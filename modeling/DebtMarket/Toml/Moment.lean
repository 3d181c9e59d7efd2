import DebtMarket.Calendar.Date
import DebtMarket.Toml.Number

/-! Moments of time in TOML: a date, a time of day, or both with an offset that may be
left out.
-/

namespace DebtMarket.Toml

/-- The text after a number of exactly `width` digits that lies in a range. -/
def skipField (width least greatest : Nat) (cs : List Char) : Option (List Char) := do
  let (n, rest) ← Text.takeFixed width cs
  guard (least ≤ n && n ≤ greatest)
  return rest

/-- The text after a mark that it has to start with. -/
def skipMark (mark : Char) : List Char → Option (List Char)
  | c :: rest => if c = mark then some rest else none
  | [] => none

/-- The text after a date. -/
def skipDate (cs : List Char) : Option (List Char) := do
  let (year, rest) ← Text.takeFixed 4 cs
  let (month, rest) ← Text.takeFixed 2 (← skipMark '-' rest)
  guard (1 ≤ month && month ≤ 12)
  skipField 2 1 (daysInMonth year month) (← skipMark '-' rest)

/-- The text after a time of day. -/
def skipTime (cs : List Char) : Option (List Char) := do
  let rest ← skipField 2 0 23 cs
  let rest ← skipField 2 0 59 (← skipMark ':' rest)
  let rest ← skipField 2 0 60 (← skipMark ':' rest)
  match rest with
  | '.' :: rest => (Text.takeDigits rest.length rest).map Prod.snd
  | rest => return rest

/-- The text after an offset. -/
def skipOffset : List Char → Option (List Char)
  | 'Z' :: rest | 'z' :: rest => some rest
  | '+' :: rest | '-' :: rest => do
      skipField 2 0 59 (← skipMark ':' (← skipField 2 0 23 rest))
  | _ => none

/-- The text after the time that may follow a date, with its offset. -/
def skipTimePart (cs : List Char) : List Char :=
  match cs with
  | c :: rest =>
      if c = 'T' ∨ c = 't' ∨ c = ' ' then
        match skipTime rest with
        | some rest => (skipOffset rest).getD rest
        | none => cs
      else cs
  | [] => cs

/-- A moment of time off the front of a text. -/
def takeMoment (cs : List Char) : Option (Toml × List Char) := do
  let rest ← (skipDate cs).map skipTimePart <|> skipTime cs
  return (.moment (written cs rest), rest)

end DebtMarket.Toml
