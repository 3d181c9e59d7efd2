import DebtMarket.Json.Number

/-! Reading JSON. The text of a value is read off the front of a list of characters;
containers may nest 127 deep. Of several members of one name the last counts. Strings hold
no raw control characters and no half of a surrogate pair.
-/

namespace DebtMarket.Json

/-- The text after leading blanks of JSON. -/
def skipBlanks (cs : List Char) : List Char :=
  cs.dropWhile fun c => c == ' ' || c == '\t' || c == '\n' || c == '\r'

/-- Four hexadecimal digits off the front of a text. -/
def takeUnit : List Char → Option (Nat × List Char)
  | a :: b :: c :: d :: rest => do
      return (← Text.hexNumber? [a, b, c, d], rest)
  | _ => none

/-- The character of an escape of four or twice four digits, after its first `\u`. -/
def takeEscapedUnit (cs : List Char) : Option (Char × List Char) := do
  let (high, rest) ← takeUnit cs
  if 0xD800 ≤ high ∧ high < 0xDC00 then
    match rest with
    | '\\' :: 'u' :: rest =>
        let (low, rest) ← takeUnit rest
        guard (0xDC00 ≤ low && low < 0xE000)
        return (Char.ofNat (0x10000 + (high - 0xD800) * 0x400 + (low - 0xDC00)), rest)
    | _ => none
  else
    guard (!(0xDC00 ≤ high && high < 0xE000))
    return (Char.ofNat high, rest)

/-- The character of an escape, after its backslash. -/
def takeEscape : List Char → Option (Char × List Char)
  | '"' :: rest => some ('"', rest)
  | '\\' :: rest => some ('\\', rest)
  | '/' :: rest => some ('/', rest)
  | 'b' :: rest => some ('\x08', rest)
  | 'f' :: rest => some ('\x0c', rest)
  | 'n' :: rest => some ('\n', rest)
  | 'r' :: rest => some ('\r', rest)
  | 't' :: rest => some ('\t', rest)
  | 'u' :: rest => takeEscapedUnit rest
  | _ => none

/-- The characters of a string up to its closing quote; each round takes at least one
character, so the length of the text bounds the rounds.
-/
def takeString : (rounds : Nat) → List Char → List Char → Option (String × List Char)
  | 0, _, _ => none
  | rounds + 1, taken, cs =>
      match cs with
      | [] => none
      | '"' :: rest => some (String.ofList taken.reverse, rest)
      | '\\' :: rest => do
          let (c, rest) ← takeEscape rest
          takeString rounds (c :: taken) rest
      | c :: rest => if c.toNat < 0x20 then none else takeString rounds (c :: taken) rest

/-- The member list with a name bound anew. -/
def bind (members : List (String × Json)) (name : String) (value : Json)
    : List (String × Json) :=
  members.filter (fun m => m.1 != name) ++ [(name, value)]

/-- The items of an array up to its closing bracket. -/
def takeItems (item : List Char → Option (Json × List Char))
    : (rounds : Nat) → List Json → List Char → Option (List Json × List Char)
  | 0, _, _ => none
  | rounds + 1, taken, cs => do
      let (value, rest) ← item (skipBlanks cs)
      match skipBlanks rest with
      | ',' :: rest => takeItems item rounds (value :: taken) rest
      | ']' :: rest => some ((value :: taken).reverse, rest)
      | _ => none

/-- The members of an object up to its closing brace. -/
def takeMembers (limit : Nat) (item : List Char → Option (Json × List Char))
    : (rounds : Nat) → List (String × Json) → List Char
    → Option (List (String × Json) × List Char)
  | 0, _, _ => none
  | rounds + 1, taken, cs => do
      match skipBlanks cs with
      | '"' :: rest =>
          let (name, rest) ← takeString limit [] rest
          match skipBlanks rest with
          | ':' :: rest =>
              let (value, rest) ← item (skipBlanks rest)
              let taken := bind taken name value
              match skipBlanks rest with
              | ',' :: rest => takeMembers limit item rounds taken rest
              | '\x7d' :: rest => some (taken, rest)
              | _ => none
          | _ => none
      | _ => none

/-- The text after a word that it has to start with. -/
def takeWord (word : List Char) (value : Json) (cs : List Char)
    : Option (Json × List Char) :=
  (word.isPrefixOf? cs).map fun rest => (value, rest)

/-- A value off the front of a text of at most `limit` characters, with containers at most
`depth` deep.
-/
def takeValue (limit : Nat) : (depth : Nat) → List Char → Option (Json × List Char)
  | _, '"' :: rest => (takeString limit [] rest).map fun (s, rest) => (.str s, rest)
  | _, 'n' :: rest => takeWord ['u', 'l', 'l'] .null rest
  | _, 't' :: rest => takeWord ['r', 'u', 'e'] (.bool true) rest
  | _, 'f' :: rest => takeWord ['a', 'l', 's', 'e'] (.bool false) rest
  | depth + 1, '[' :: rest =>
      match skipBlanks rest with
      | ']' :: rest => some (.arr [], rest)
      | rest => (takeItems (takeValue limit depth) limit [] rest).map fun (items, rest) =>
          (.arr items, rest)
  | depth + 1, '\x7b' :: rest =>
      match skipBlanks rest with
      | '\x7d' :: rest => some (.obj [], rest)
      | rest =>
          let item := takeValue limit depth
          (takeMembers limit item limit [] rest).map fun (members, rest) =>
            (.obj members, rest)
  | _, cs => takeNumber limit cs

/-- How deep containers may nest. -/
def maxDepth : Nat :=
  127

/-- The value that a whole text stands for. -/
def read (text : String) : Option Json := do
  let cs := text.toList
  let (value, rest) ← takeValue cs.length maxDepth (skipBlanks cs)
  guard (skipBlanks rest).isEmpty
  return value

end DebtMarket.Json
