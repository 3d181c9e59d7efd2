import DebtMarket.Text.Ascii
import DebtMarket.Text.Blank
import DebtMarket.Text.Quoted
import DebtMarket.Json.Codec

/-! Vocabularies: small closed sets of values, each with one word. Users may spell a word
in any case and with blanks around it; JSON holds the exact word.
-/

namespace DebtMarket

/-- A closed set of values, each with one word. -/
class Vocabulary (α : Type) where
  /-- What the words name, for messages. -/
  noun : String
  /-- The values in order. -/
  members : List α
  /-- The word of a value. -/
  word : α → String

export Vocabulary (word)

/-- A text that is no word of a vocabulary. -/
structure UnknownWord where
  noun : String
  spelled : String
deriving DecidableEq, Repr

namespace UnknownWord

/-- The message quotes the text as it was spelled. -/
def message (e : UnknownWord) : String :=
  s!"invalid {e.noun}: {Text.quoted e.spelled}"

end UnknownWord

namespace Vocabulary

variable {α : Type} [Vocabulary α]

/-- The value whose word is exactly the text. -/
def ofWord? (s : String) : Option α :=
  members.find? fun a => word a == s

/-- The value whose word is the text, blanks around it and the case of letters aside. -/
def read (s : String) : Except UnknownWord α :=
  let wanted := Text.trimString s
  match members.find? fun a => Text.sameFolded (word a) wanted with
  | some a => .ok a
  | none => .error ⟨noun α, s⟩

/-- In JSON a value is its word; an object whose only member is the word and holds null is
read as the value too.
-/
instance : Json.Codec α where
  encode a := .str (word a)
  decode
    | .str s => ofWord? s
    | .obj [(s, .null)] => ofWord? s
    | _ => none

end Vocabulary

end DebtMarket
