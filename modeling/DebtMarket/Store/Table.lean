import DebtMarket.Fault
import DebtMarket.InPlace
import DebtMarket.Revision

/-! Tables of records. A table keeps its records in the order in which they were first
stored. A record replaces the stored one of its identifier if its version is greater;
records marked as deleted stay in the table, but reads and searches pass them over.
-/

namespace DebtMarket

/-- Records that a table keeps under their identifier. -/
class Stored (α : Type) (kind : outParam IdKind) where
  /-- What the record is called in store errors. -/
  noun : String
  id : α → Id kind
  revision : α → Revision

/-- Records in the order in which they were first stored. -/
structure Table (α : Type) where
  rows : List α
deriving DecidableEq, Repr

/-- The records in order of an instant of theirs; equal instants keep their order. -/
def inOrderOf {α : Type} (time : α → Instant) (rows : List α) : List α :=
  rows.mergeSort fun a b => decide (time a ≤ time b)

namespace Table

variable {α : Type} {kind : IdKind} [Stored α kind]

/-- The table without records. -/
def empty : Table α :=
  ⟨[]⟩

/-- Whether a record is not marked as deleted. -/
def isLive (a : α) : Bool :=
  !(Stored.revision a).isDeleted

/-- The record of an identifier, deleted or not. -/
def find? (t : Table α) (id : Id kind) : Option α :=
  t.rows.find? fun a => Stored.id a == id

/-- The record of an identifier, unless it is deleted. -/
def get? (t : Table α) (id : Id kind) : Option α :=
  (t.find? id).filter isLive

/-- The records that are not deleted and meet a test, oldest first. -/
def search (t : Table α) (test : α → Bool) : List α :=
  inOrderOf (fun a => (Stored.revision a).createdAt)
    (t.rows.filter fun a => isLive a && test a)

/-- The table with a record in place of the one of its identifier, or at the end. -/
def put (t : Table α) (a : α) : Table α :=
  if t.rows.any fun b => Stored.id b == Stored.id a then
    ⟨t.rows.map fun b => if Stored.id b == Stored.id a then a else b⟩
  else ⟨t.rows ++ [a]⟩

/-- A record is refused unless its version is greater than the stored one. -/
def checkVersion (t : Table α) (a : α) : Except StoreError Unit :=
  match t.find? (Stored.id a) with
  | none => .ok ()
  | some b =>
      let attempted := (Stored.revision a).version
      let stored := (Stored.revision b).version
      if attempted ≤ stored then
        .error
          (.versionConflict (Stored.noun α) (toString (Stored.id a)) attempted stored)
      else .ok ()

/-- A record of greater version stored in place. -/
def saving (a : α) : InPlace (Table α) StoreError Unit := do
  let t ← get
  InPlace.check (t.checkVersion a)
  modify fun t => t.put a

/-- Several records stored in place, all of which are checked before any is stored. -/
def savingAll (records : List α) : InPlace (Table α) StoreError Unit := do
  records.forM fun a => do
    let t ← get
    InPlace.check (t.checkVersion a)
  records.forM fun a => modify fun t => t.put a

/-- The table with a record of greater version. -/
def save (t : Table α) (a : α) : Except StoreError (Table α) :=
  (saving a).apply t

/-- The table with several records, or with none of them. -/
def saveAll (t : Table α) (records : List α) : Except StoreError (Table α) :=
  (savingAll records).apply t

end Table

end DebtMarket
