import DebtMarket.Calendar.Date

/-! Instants of universal time. An instant is a date, a second of that day and a number of
nanoseconds, which reaches past one second in the last second of a minute when a leap
second follows it. Instants are ordered in time; adding seconds never leaves their range.
-/

namespace DebtMarket

/-- An instant of universal time. -/
structure Instant where
  date : Date
  second : Nat
  nano : Nat
  second_lt : second < 86400
  nano_lt : nano < 2000000000
  leap_mem : 1000000000 ≤ nano → second % 60 = 59
deriving DecidableEq, Repr

namespace Instant

/-- The instant of a date, a second and nanoseconds, if there is one. -/
def make? (date : Date) (second nano : Nat) : Option Instant :=
  if h : second < 86400 ∧ nano < 2000000000 ∧ (1000000000 ≤ nano → second % 60 = 59) then
    some ⟨date, second, nano, h.1, h.2.1, h.2.2⟩
  else none

/-- A number that grows with the instant, by which instants compare. -/
def rank (t : Instant) : Int :=
  (t.date.rank * 86400 + t.second) * 2000000000 + t.nano

/-- Instants compare in time. -/
def compare (a b : Instant) : Ordering :=
  Ord.compare a.rank b.rank

instance : LT Instant :=
  ⟨fun a b => a.rank < b.rank⟩

instance : LE Instant :=
  ⟨fun a b => a.rank ≤ b.rank⟩

instance (a b : Instant) : Decidable (a < b) :=
  inferInstanceAs (Decidable (a.rank < b.rank))

instance (a b : Instant) : Decidable (a ≤ b) :=
  inferInstanceAs (Decidable (a.rank ≤ b.rank))

/-- The instant a number of seconds after another, with nanoseconds of its own. -/
def shift? (date : Date) (second : Int) (nano : Nat) : Option Instant := do
  make? (← date.addDays? (second / 86400)) (second % 86400).toNat nano

/-- The instant of a number of seconds since the first of January 1970. -/
def ofUnixSeconds? (seconds : Int) : Option Instant := do
  make? (← Date.ofDayNumber? (seconds / 86400)) (seconds % 86400).toNat 0

/-- The greatest number of seconds that can be added. -/
def maxSpan : Nat :=
  9223372036854775

/-- The instant some seconds later. Out of a leap second time goes on from its end when
seconds are taken off, and from its start when they are added.
-/
def addSeconds? (t : Instant) (seconds : Int) : Option Instant :=
  if seconds = 0 then some t
  else if t.nano < 1000000000 then shift? t.date (t.second + seconds) t.nano
  else if 0 < seconds then shift? t.date (t.second + seconds) (t.nano - 1000000000)
  else shift? t.date (t.second + 1 + seconds) (t.nano - 1000000000)

/-- The instant some seconds later, or the same one when that is out of range. -/
def addSeconds (t : Instant) (seconds : Int) : Instant :=
  if seconds.natAbs ≤ maxSpan then (t.addSeconds? seconds).getD t else t

/-- The text of a fraction of a second: three, six or nine digits, the fewest that are
exact.
-/
def fractionChars (nano : Nat) : List Char :=
  if nano = 0 then []
  else if nano % 1000000 = 0 then '.' :: Text.paddedDigits 3 (nano / 1000000)
  else if nano % 1000 = 0 then '.' :: Text.paddedDigits 6 (nano / 1000)
  else '.' :: Text.paddedDigits 9 nano

/-- The text of an instant without an offset; a leap second is second sixty. -/
def localChars (t : Instant) : List Char :=
  let leap := t.nano / 1000000000
  t.date.chars ++ 'T' :: Text.paddedDigits 2 (t.second / 3600)
    ++ ':' :: Text.paddedDigits 2 (t.second / 60 % 60)
    ++ ':' :: Text.paddedDigits 2 (t.second % 60 + leap)
    ++ fractionChars (t.nano % 1000000000)

/-- The text of an instant in messages. -/
def text (t : Instant) : String :=
  String.ofList (t.localChars ++ ['+', '0', '0', ':', '0', '0'])

/-- The text of an instant in JSON. -/
def wireText (t : Instant) : String :=
  String.ofList (t.localChars ++ ['Z'])

instance : ToString Instant :=
  ⟨text⟩

end Instant

end DebtMarket
