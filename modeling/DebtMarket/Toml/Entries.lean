import DebtMarket.Toml.Basic

/-! Tables under construction. While a document is read, a table may still grow: it was
named by a header, or only passed on the way to a header, or made by dotted keys. Which of
these it is decides what may be added to it; finished values never grow.
-/

namespace DebtMarket.Toml

/-- How a table under construction came about. -/
inductive Origin where
  /-- Named by a header, or the table at the top. -/
  | header
  /-- Passed on the way to the table of a header. -/
  | passed
  /-- Made by a dotted key. -/
  | dotted
deriving DecidableEq, Repr

/-- What a key stands for while a document is read. -/
inductive Entry where
  | value (value : Toml)
  | table (origin : Origin) (members : List (String × Entry))
  /-- The tables of an array of tables, last first. -/
  | tables (tables : List (List (String × Entry)))

/-- The members of a table under construction. -/
abbrev Entries :=
  List (String × Entry)

mutual
/-- The finished value of an entry. -/
def Entry.finished : Entry → Toml
  | .value value => value
  | .table _ members => .table (finishedMembers members)
  | .tables tables => .array (finishedTables tables).reverse

/-- The finished members of a table. -/
def finishedMembers : List (String × Entry) → List (String × Toml)
  | [] => []
  | (key, entry) :: rest => (key, entry.finished) :: finishedMembers rest

/-- The finished tables of an array of tables. -/
def finishedTables : List (List (String × Entry)) → List Toml
  | [] => []
  | members :: rest => .table (finishedMembers members) :: finishedTables rest
end

namespace Entries

/-- The members with an entry bound to a key, at the end if the key is new. -/
def bind (key : String) (entry : Entry) : Entries → Entries
  | [] => [(key, entry)]
  | (other, old) :: rest =>
      if other = key then (key, entry) :: rest else (other, old) :: bind key entry rest

/-- The members with the table at a path changed; tables that the path lacks are made as
`made` says. A dotted path does not enter a table that a header named; any path goes on in
the last table of an array of tables.
-/
def change (made : Origin) (f : Origin → Entries → Option Entries)
    : (origin : Origin) → (path : List String) → Entries → Option Entries
  | origin, [], members => f origin members
  | _, key :: path, members =>
      match members.lookup key with
      | none => do return bind key (.table made (← change made f made path [])) members
      | some (.value _) => none
      | some (.tables []) => none
      | some (.tables (last :: earlier)) => do
          let last ← change made f .header path last
          return bind key (.tables (last :: earlier)) members
      | some (.table origin inner) => do
          guard (made != .dotted || origin != .header)
          return bind key (.table origin (← change made f origin path inner)) members

/-- The members with a value at a dotted key; the table that takes it has to be made by
dotted keys as well, and may not have the key yet.
-/
def insert (path : List String) (key : String) (value : Toml) (members : Entries)
    : Option Entries :=
  change .dotted (fun origin members => do
    guard (path.isEmpty || origin == .dotted)
    guard (members.lookup key).isNone
    return bind key (.value value) members) .header path members

end Entries

/-- The last key of a path, with the keys in front of it. -/
def splitLast : List String → Option (List String × String)
  | [] => none
  | [key] => some ([], key)
  | key :: rest => (splitLast rest).map fun (front, last) => (key :: front, last)

end DebtMarket.Toml
