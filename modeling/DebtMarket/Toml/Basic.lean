/-! TOML values. Floats and moments of time keep the text in which they are written. A
table counts as a record, so does the bare list of its fields in order, and a moment of
time counts as a record in which every field is absent.
-/

namespace DebtMarket

/-- A TOML value. -/
inductive Toml where
  | string (value : String)
  | integer (value : Int)
  | float (written : String)
  | boolean (value : Bool)
  /-- A date, a time or both. -/
  | moment (written : String)
  | array (items : List Toml)
  | table (members : List (String × Toml))
deriving Inhabited, Repr

namespace Toml

/-- The value of a string. -/
def string? : Toml → Option String
  | string s => some s
  | _ => none

/-- The value of a boolean. -/
def boolean? : Toml → Option Bool
  | boolean b => some b
  | _ => none

/-- The value of an integer that is not negative. -/
def natural? : Toml → Option UInt64
  | integer n => if 0 ≤ n ∧ n < Nat.pow 2 64 then some (UInt64.ofNat n.toNat) else none
  | _ => none

/-- The word of a choice: a string, or the only key of a table whose value is empty. -/
def choice? : Toml → Option String
  | string s | table [(s, array [])] | table [(s, table [])] => some s
  | _ => none

/-- The fields of a record by name. -/
def record? (names : List String) : Toml → Option (List (String × Toml))
  | table members => some members
  | array items => some (names.zip items)
  | moment _ => some []
  | _ => none

/-- The field of a name as it is read, or a default when it is absent. -/
def field {α : Type} (read : Toml → Option α) (record : List (String × Toml))
    (name : String) (default : α) : Option α :=
  match record.lookup name with
  | none => some default
  | some value => read value

end Toml

end DebtMarket
