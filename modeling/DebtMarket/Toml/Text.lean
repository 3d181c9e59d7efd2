import DebtMarket.Text.Digits

/-! Text in TOML: blanks, line ends and comments, and the four kinds of strings. A basic
string has escapes, a literal string has none, and either may run over several lines
between triple quotes. Control characters stand nowhere but in escapes, apart from tabs.
-/

namespace DebtMarket.Toml

/-- The text after leading spaces and tabs. -/
def skipBlanks (cs : List Char) : List Char :=
  cs.dropWhile fun c => c == ' ' || c == '\t'

/-- Whether a character may stand in a comment or a string. -/
def isPlain (c : Char) : Bool :=
  c == '\t' || (0x20 ≤ c.toNat && c.toNat != 0x7F)

/-- The text after the end of a line. -/
def takeLineEnd : List Char → Option (List Char)
  | '\n' :: rest | '\r' :: '\n' :: rest => some rest
  | _ => none

/-- The text after a comment, if it starts with one. -/
def skipComment : List Char → List Char
  | '#' :: rest => rest.dropWhile isPlain
  | cs => cs

/-- The text after the rest of a line: blanks, a comment, and the end of the line or text.
-/
def finishLine (cs : List Char) : Option (List Char) :=
  match skipComment (skipBlanks cs) with
  | [] => some []
  | cs => takeLineEnd cs

/-- The text after blanks, line ends and comments; each round skips at least one
character.
-/
def skipSpace : (rounds : Nat) → List Char → List Char
  | 0, cs => cs
  | rounds + 1, cs =>
      match skipComment (skipBlanks cs) with
      | '\n' :: rest | '\r' :: '\n' :: rest => skipSpace rounds rest
      | cs => cs

/-- The text after blanks and line ends. -/
def skipLines : (rounds : Nat) → List Char → List Char
  | 0, cs => cs
  | rounds + 1, cs =>
      match skipBlanks cs with
      | '\n' :: rest | '\r' :: '\n' :: rest => skipLines rounds rest
      | cs => cs

/-- The character of a code point of exactly `width` hexadecimal digits. -/
def takeCodePoint (width : Nat) (cs : List Char) : Option (Char × List Char) := do
  let run := cs.take width
  guard (run.length == width)
  let n ← Text.hexNumber? run
  guard (n < 0xD800 || (0xE000 ≤ n && n < 0x110000))
  return (Char.ofNat n, cs.drop width)

/-- The character of an escape, after its backslash. -/
def takeEscape : List Char → Option (Char × List Char)
  | 'b' :: rest => some ('\x08', rest)
  | 't' :: rest => some ('\t', rest)
  | 'n' :: rest => some ('\n', rest)
  | 'f' :: rest => some ('\x0c', rest)
  | 'r' :: rest => some ('\r', rest)
  | '"' :: rest => some ('"', rest)
  | '\\' :: rest => some ('\\', rest)
  | 'u' :: rest => takeCodePoint 4 rest
  | 'U' :: rest => takeCodePoint 8 rest
  | _ => none

/-- The rest of a basic string of one line, up to its quote. -/
def takeBasic : (rounds : Nat) → List Char → List Char → Option (String × List Char)
  | 0, _, _ => none
  | rounds + 1, taken, cs =>
      match cs with
      | [] => none
      | '"' :: rest => some (String.ofList taken.reverse, rest)
      | '\\' :: rest => do
          let (c, rest) ← takeEscape rest
          takeBasic rounds (c :: taken) rest
      | c :: rest => if isPlain c then takeBasic rounds (c :: taken) rest else none

/-- The rest of a literal string of one line, up to its quote. -/
def takeLiteral (cs : List Char) : Option (String × List Char) :=
  let run := cs.takeWhile fun c => c != '\'' && isPlain c
  match cs.drop run.length with
  | '\'' :: rest => some (String.ofList run, rest)
  | _ => none

/-- The quotes that belong to a text of several lines out of a run of them, and whether
the run ends it: three quotes do, with at most two that belong to the text in front.
-/
def splitQuotes (run : Nat) : Nat × Bool :=
  if run < 3 then (run, false) else (min (run - 3) 2, true)

/-- The rest of a text of several lines, up to its triple quote. A backslash, where it
escapes, at the end of a line joins the line to the next characters that are not blank.
-/
def takeLines (quote : Char) (escapes : Bool)
    : (rounds : Nat) → List Char → List Char → Option (String × List Char)
  | 0, _, _ => none
  | rounds + 1, taken, cs =>
      match cs with
      | [] => none
      | '\n' :: rest | '\r' :: '\n' :: rest =>
          takeLines quote escapes rounds ('\n' :: taken) rest
      | c :: rest =>
          if c = quote then
            let run := (cs.takeWhile (· == quote)).length
            let (own, ends) := splitQuotes run
            let taken := List.replicate own quote ++ taken
            if ends then some (String.ofList taken.reverse, cs.drop (own + 3))
            else takeLines quote escapes rounds taken (cs.drop own)
          else if escapes && c == '\\' then
            match takeLineEnd (skipBlanks rest) with
            | some after =>
                takeLines quote escapes rounds taken (skipLines after.length after)
            | none => do
                let (c, rest) ← takeEscape rest
                takeLines quote escapes rounds (c :: taken) rest
          else if isPlain c then takeLines quote escapes rounds (c :: taken) rest
          else none

/-- A text of several lines after its triple quote; a line end right there does not count.
-/
def takeBlock (quote : Char) (escapes : Bool) (cs : List Char)
    : Option (String × List Char) :=
  takeLines quote escapes (cs.length + 1) [] ((takeLineEnd cs).getD cs)

/-- A string of one line off the front of a text. -/
def takeShort : List Char → Option (String × List Char)
  | '"' :: rest => takeBasic (rest.length + 1) [] rest
  | '\'' :: rest => takeLiteral rest
  | _ => none

/-- A string of any kind off the front of a text. -/
def takeString : List Char → Option (String × List Char)
  | '"' :: '"' :: '"' :: rest => takeBlock '"' true rest
  | '\'' :: '\'' :: '\'' :: rest => takeBlock '\'' false rest
  | cs => takeShort cs

end DebtMarket.Toml
