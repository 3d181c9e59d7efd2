import DebtMarket.Toml.Value

/-! Reading TOML documents. A document is a sequence of lines: key and value, the header
of a table, the header of one more table of an array, or nothing but a comment. Lines
after a header belong to its table; no table is named twice and no key is bound twice.
-/

namespace DebtMarket.Toml

/-- Which table the lines of a document belong to. -/
inductive Header where
  | top
  | table (path : List String)
  | element (path : List String)
deriving DecidableEq, Repr

/-- A document while it is read: the tables that are complete, and the one that grows. -/
structure Document where
  root : Entries
  header : Header
  growing : Entries

namespace Document

/-- The document before its first line. -/
def empty : Document :=
  { root := [], header := .top, growing := [] }

/-- The members of a document with the growing table in its place. -/
def close (d : Document) : Option Entries :=
  match d.header with
  | .top => some d.growing
  | .table path => do
      let (front, key) ← splitLast path
      Entries.change .passed
        (fun _ members => some (Entries.bind key (.table .header d.growing) members))
        .header front d.root
  | .element path => do
      let (front, key) ← splitLast path
      Entries.change .passed (fun _ members =>
        match members.lookup key with
        | none => some (Entries.bind key (.tables [d.growing]) members)
        | some (.tables tables) =>
            some (Entries.bind key (.tables (d.growing :: tables)) members)
        | some _ => none)
        .header front d.root

/-- What is in the table of a key before its header: nothing, unless the table was passed
on the way to another one; a table that was named or made by dotted keys is not named
again.
-/
def prior? (key : String) (members : Entries) : Option Entries :=
  match members.lookup key with
  | none => some []
  | some (.table .passed inner) => some inner
  | some _ => none

/-- The entries at a path, where no table is made. -/
def lookup? : (path : List String) → Entries → Option Entries
  | [], members => some members
  | key :: path, members =>
      match members.lookup key with
      | none => some []
      | some (.value _) | some (.tables []) => none
      | some (.tables (last :: _)) => lookup? path last
      | some (.table _ inner) => lookup? path inner

/-- The document at the header of a table. -/
def startTable (d : Document) (path : List String) : Option Document := do
  let root ← d.close
  let (front, key) ← splitLast path
  let inner ← prior? key (← lookup? front root)
  return { root, header := .table path, growing := inner }

/-- The document at the header of one more table of an array. -/
def startElement (d : Document) (path : List String) : Option Document := do
  let root ← d.close
  let (front, key) ← splitLast path
  match (← lookup? front root).lookup key with
  | none | some (.tables _) => return { root, header := .element path, growing := [] }
  | some _ => none

/-- The document with a value bound in the growing table. -/
def assign (d : Document) (path : List String) (value : Toml) : Option Document := do
  let (front, key) ← splitLast path
  return { d with growing := ← d.growing.insert front key value }

/-- The document after a key and its value, at the start of a text. -/
def takeAssignment (limit : Nat) (d : Document) (cs : List Char)
    : Option (Document × List Char) := do
  let (path, rest) ← takeKey cs
  let '=' :: rest := rest | none
  let (value, rest) ← takeValue limit maxDepth (skipBlanks rest)
  return (← d.assign path value, ← finishLine rest)

/-- The document after a line that starts with something, at the start of a text. -/
def takeLine (limit : Nat) (d : Document) : List Char → Option (Document × List Char)
  | '[' :: '[' :: rest => do
      let (path, rest) ← takeKey rest
      let ']' :: ']' :: rest := rest | none
      return (← d.startElement path, ← finishLine rest)
  | '[' :: rest => do
      let (path, rest) ← takeKey rest
      let ']' :: rest := rest | none
      return (← d.startTable path, ← finishLine rest)
  | cs => takeAssignment limit d cs

/-- The document after all lines; each round takes at least one character. -/
def takeLines (limit : Nat) : (rounds : Nat) → Document → List Char → Option Document
  | 0, _, _ => none
  | rounds + 1, d, cs =>
      match skipSpace limit cs with
      | [] => some d
      | cs => do
          let (d, rest) ← takeLine limit d cs
          takeLines limit rounds d rest

end Document

/-- The text without a mark of byte order at its start. -/
def skipOrderMark : List Char → List Char
  | '\ufeff' :: rest => rest
  | cs => cs

/-- The table that a whole document stands for. -/
def read (text : String) : Option Toml := do
  let cs := skipOrderMark text.toList
  let d ← Document.takeLines cs.length (cs.length + 1) .empty cs
  return .table (finishedMembers (← d.close))

end DebtMarket.Toml
