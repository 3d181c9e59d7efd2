/-! Letters of ASCII. Wire words, flags and levels are spelled with ASCII letters, and no
letter outside ASCII has one of theirs as its lower case apart from the Kelvin sign, so
folding ASCII alone decides whether a text spells one of them.
-/

namespace DebtMarket.Text

/-- The text with its ASCII capitals made small, all else kept. -/
def lowered (s : String) : String :=
  String.ofList (s.toList.map Char.toLower)

/-- The text with its small ASCII letters made capital, all else kept. -/
def raised (s : String) : String :=
  String.ofList (s.toList.map Char.toUpper)

/-- Two texts that differ at most in the case of their ASCII letters. -/
def sameFolded (a b : String) : Bool :=
  lowered a == lowered b

end DebtMarket.Text
