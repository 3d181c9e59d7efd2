import DebtMarket.Toml.Entries
import DebtMarket.Toml.Moment
import DebtMarket.Toml.Text

/-! Keys and values of TOML. A key is a path of bare or quoted names with dots between
them. Arrays may run over several lines, inline tables may not; both nest 79 deep at most.
-/

namespace DebtMarket.Toml

/-- Whether a character may stand in a bare key. -/
def isBare (c : Char) : Bool :=
  c.isAlphanum || c == '_' || c == '-'

/-- A single name off the front of a text. -/
def takeName (cs : List Char) : Option (String × List Char) :=
  match cs with
  | '"' :: _ | '\'' :: _ => takeShort cs
  | cs =>
      let run := cs.takeWhile isBare
      if run.isEmpty then none else some (String.ofList run, cs.drop run.length)

/-- The names of a key with the blanks around them. -/
def takeNames : (rounds : Nat) → List Char → Option (List String × List Char)
  | 0, _ => none
  | rounds + 1, cs => do
      let (name, rest) ← takeName (skipBlanks cs)
      match skipBlanks rest with
      | '.' :: rest =>
          (takeNames rounds rest).map fun (names, rest) => (name :: names, rest)
      | rest => return ([name], rest)

/-- How deep keys, arrays and inline tables may go. -/
def maxDepth : Nat :=
  79

/-- A key off the front of a text, with the blanks around it. -/
def takeKey (cs : List Char) : Option (List String × List Char) :=
  takeNames maxDepth cs

/-- The text after a word that it has to start with. -/
def takeWord (word : List Char) (value : Toml) (cs : List Char)
    : Option (Toml × List Char) :=
  (word.isPrefixOf? cs).map fun rest => (value, rest)

/-- The items of an array up to its bracket; a comma may follow the last one. -/
def takeItems (item : List Char → Option (Toml × List Char))
    : (rounds : Nat) → List Toml → List Char → Option (List Toml × List Char)
  | 0, _, _ => none
  | rounds + 1, taken, cs => do
      match skipSpace cs.length cs with
      | ']' :: rest => return (taken.reverse, rest)
      | cs =>
          let (value, rest) ← item cs
          match skipSpace rest.length rest with
          | ',' :: rest => takeItems item rounds (value :: taken) rest
          | ']' :: rest => return ((value :: taken).reverse, rest)
          | _ => none

/-- The members of an inline table up to its brace. -/
def takeMembers (item : List Char → Option (Toml × List Char))
    : (rounds : Nat) → Entries → List Char → Option (Entries × List Char)
  | 0, _, _ => none
  | rounds + 1, taken, cs => do
      let (path, rest) ← takeKey cs
      let (front, key) ← splitLast path
      let '=' :: rest := rest | none
      let (value, rest) ← item (skipBlanks rest)
      let taken ← taken.insert front key value
      match skipBlanks rest with
      | ',' :: rest => takeMembers item rounds taken rest
      | '\x7d' :: rest => return (taken, rest)
      | _ => none

/-- A value off the front of a text of at most `limit` characters, with arrays and inline
tables at most `depth` deep.
-/
def takeValue (limit : Nat) : (depth : Nat) → List Char → Option (Toml × List Char)
  | _, '"' :: rest => (takeString ('"' :: rest)).map fun (s, rest) => (.string s, rest)
  | _, '\'' :: rest => (takeString ('\'' :: rest)).map fun (s, rest) => (.string s, rest)
  | _, 't' :: rest => takeWord ['r', 'u', 'e'] (.boolean true) rest
  | _, 'f' :: rest => takeWord ['a', 'l', 's', 'e'] (.boolean false) rest
  | depth + 1, '[' :: rest =>
      (takeItems (takeValue limit depth) limit [] rest).map fun (items, rest) =>
        (.array items, rest)
  | depth + 1, '\x7b' :: rest =>
      match skipBlanks rest with
      | '\x7d' :: rest => some (.table [], rest)
      | rest =>
          (takeMembers (takeValue limit depth) limit [] rest).map fun (members, rest) =>
            (.table (finishedMembers members), rest)
  | _, cs => takeMoment cs <|> takeFloat cs <|> takeInteger cs

end DebtMarket.Toml
