import DebtMarket.Decimal.Reader
import DebtMarket.Fault
import DebtMarket.Json.Number

/-! Money. An amount is a decimal above zero; a currency is a code of three capital
letters, read from any text that spells it up to case and blanks at its ends.
-/

namespace DebtMarket

/-- In JSON a decimal is its text; numbers are read too. -/
instance : Json.Codec Decimal where
  encode d := .str d.text
  decode
    | .str s => Decimal.read s.toList
    | .int n => Decimal.ofInt? n
    | .real negative digits exponent =>
        Decimal.readPlain (Json.positional negative digits exponent)
    | _ => none

/-- A decimal above zero. -/
structure Amount where
  decimal : Decimal
  positive : decimal.isPositive = true
deriving DecidableEq, Repr

namespace Amount

/-- The amount of a decimal, refused unless it is above zero. -/
def make (d : Decimal) : Except MarketError Amount :=
  if h : d.isPositive = true then .ok ⟨d, h⟩
  else .error (.invalidAmount s!"amount must be positive, got {d}")

/-- Amounts compare by value. -/
def compare (a b : Amount) : Ordering :=
  a.decimal.compare b.decimal

instance : ToString Amount :=
  ⟨fun a => a.decimal.text⟩

/-- In JSON an amount is its decimal, and only a positive one is read. -/
instance : Json.Codec Amount where
  encode a := Json.encode a.decimal
  decode j := do (make (← Json.decode j)).toOption

end Amount

/-- Whether a text is three capital ASCII letters. -/
def isCurrencyCode (s : String) : Bool :=
  s.toList.length == 3 && s.toList.all Char.isUpper

/-- A code of three capital letters. -/
structure Currency where
  code : String
  isCode : isCurrencyCode code = true
deriving DecidableEq, Repr

namespace Currency

/-- The currency that a text spells: blanks around it and the case of its letters do not
count, and the error holds the trimmed text.
-/
def make (s : String) : Except MarketError Currency :=
  let trimmed := Text.trimString s
  if h : isCurrencyCode (Text.raised trimmed) = true then .ok ⟨Text.raised trimmed, h⟩
  else .error (.invalidCurrency trimmed)

/-- The currency that a text is read as, which is the one that it spells. -/
def read (s : String) : Except MarketError Currency :=
  make s

instance : ToString Currency :=
  ⟨code⟩

/-- In JSON a currency is its code, and any text that spells one is read. -/
instance : Json.Codec Currency where
  encode c := .str c.code
  decode
    | .str s => (make s).toOption
    | _ => none

end Currency

end DebtMarket
