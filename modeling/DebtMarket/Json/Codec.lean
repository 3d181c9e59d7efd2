import DebtMarket.Json.Basic

/-! JSON forms of types. A type with a JSON form has an encoder and a decoder; a record is
written as an object with every field, and read from an object, in which unknown members
do not count and an absent member reads as null, or from the bare list of its fields in
order.
-/

namespace DebtMarket.Json

/-- Types with a JSON form. -/
class Codec (α : Type) where
  encode : α → Json
  decode : Json → Option α

export Codec (encode decode)

instance : Codec Json where
  encode := id
  decode := some

instance : Codec String where
  encode := .str
  decode
    | .str s => some s
    | _ => none

instance : Codec Bool where
  encode := .bool
  decode
    | .bool b => some b
    | _ => none

/-- Unsigned 64-bit numbers are whole numbers in range. -/
instance : Codec UInt64 where
  encode n := .int n.toNat
  decode
    | .int n => if 0 ≤ n ∧ n < Nat.pow 2 64 then some (UInt64.ofNat n.toNat) else none
    | _ => none

/-- An absent value is null. -/
instance {α : Type} [Codec α] : Codec (Option α) where
  encode
    | none => .null
    | some a => encode a
  decode
    | .null => some none
    | j => (decode j).map some

/-- Every item of a list decodes, in order. -/
def decodeItems {α : Type} [Codec α] : List Json → Option (List α)
  | [] => some []
  | j :: rest => do return (← decode j) :: (← decodeItems rest)

instance {α : Type} [Codec α] : Codec (List α) where
  encode items := .arr (items.map encode)
  decode
    | .arr items => decodeItems items
    | _ => none

/-- The fields of a record as they were found. -/
abbrev Record := List (String × Json)

/-- The fields of a record with the given names, of which the first `needed` have to be
present when the record is a bare list.
-/
def record? (names : List String) (needed : Nat) : Json → Option Record
  | .obj members => some members
  | .arr items =>
      if needed ≤ items.length ∧ items.length ≤ names.length then some (names.zip items)
      else none
  | _ => none

/-- The fields of a record that has to be complete. -/
def wholeRecord? (names : List String) : Json → Option Record :=
  record? names names.length

namespace Record

/-- The member of a name, null when it is absent. -/
def get (r : Record) (name : String) : Json :=
  (r.lookup name).getD .null

/-- The field of a name, decoded. -/
def read {α : Type} [Codec α] (r : Record) (name : String) : Option α :=
  decode (r.get name)

/-- The field of a name, decoded, or a default when it is absent. -/
def readOr {α : Type} [Codec α] (r : Record) (name : String) (default : α) : Option α :=
  match r.lookup name with
  | none => some default
  | some j => decode j

end Record

end DebtMarket.Json
