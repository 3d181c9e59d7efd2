import DebtMarket.Json.Basic
import DebtMarket.Text.Digits

/-! Writing JSON without blanks. Strings escape quotes, backslashes, control characters
and the three line separators beyond ASCII.
-/

namespace DebtMarket.Json

/-- The escape of a character by its code, in four digits. -/
def codeEscape (c : Char) : List Char :=
  let ds := Nat.toDigits 16 c.toNat
  ['\\', 'u'] ++ List.replicate (4 - ds.length) '0' ++ ds

/-- One character inside a string. -/
def writeChar (c : Char) : List Char :=
  if c = '"' then ['\\', '"']
  else if c = '\\' then ['\\', '\\']
  else if c.toNat < 0x20 ∨ c.toNat ∈ [0x85, 0x2028, 0x2029] then codeEscape c
  else [c]

/-- A string between quotes. -/
def writeString (s : String) : String :=
  String.ofList ('"' :: s.toList.flatMap writeChar ++ ['"'])

mutual
/-- The text of a value. -/
def write : Json → String
  | .null => "null"
  | .bool value => if value then "true" else "false"
  | .int value => toString value
  | .real negative digits exponent =>
      (if negative then "-" else "") ++ Text.numeral digits ++ "e" ++ toString exponent
  | .str value => writeString value
  | .arr items => "[" ++ ",".intercalate (writeItems items) ++ "]"
  | .obj members => "\x7b" ++ ",".intercalate (writeMembers members) ++ "\x7d"

/-- The texts of the items of an array. -/
def writeItems : List Json → List String
  | [] => []
  | item :: rest => write item :: writeItems rest

/-- The texts of the members of an object. -/
def writeMembers : List (String × Json) → List String
  | [] => []
  | (name, value) :: rest => (writeString name ++ ":" ++ write value) :: writeMembers rest
end

end DebtMarket.Json
