import DebtMarket.Ownership
import DebtMarket.Store.Table

/-! The ledger of ownership. Rows are added and never taken away; at most one row of an
instrument is open, and a transfer closes it and adds its successor in one write.
-/

namespace DebtMarket

/-- Ownership rows in the order in which they were added. -/
structure Ledger where
  rows : List Ownership
deriving DecidableEq, Repr

namespace Ledger

/-- The ledger without rows. -/
def empty : Ledger :=
  ⟨[]⟩

/-- What a row is called in store errors. -/
def noun : String :=
  "InstrumentOwnership"

/-- The rows of an instrument in the order in which they were added. -/
def rowsOf (l : Ledger) (instrument : InstrumentId) : List Ownership :=
  l.rows.filter fun row => row.instrument == instrument

/-- The open row of an instrument. -/
def active? (l : Ledger) (instrument : InstrumentId) : Option Ownership :=
  (l.rowsOf instrument).find? Ownership.isActive

/-- The rows of an instrument, oldest acquisition first. -/
def history (l : Ledger) (instrument : InstrumentId) : List Ownership :=
  inOrderOf Ownership.acquiredAt (l.rowsOf instrument)

/-- The open rows of a company, oldest acquisition first. -/
def holdings (l : Ledger) (owner : CompanyId) : List Ownership :=
  inOrderOf Ownership.acquiredAt
    (l.rows.filter fun row => row.owner == owner && row.isActive)

/-- A refusal because of a row. -/
def refuse {α : Type} (row : Ownership) (reason : String) : Except StoreError α :=
  .error (.constraint noun (toString row.id) reason)

/-- Whether an instrument has a row of an identifier. -/
def hasRow (l : Ledger) (instrument : InstrumentId) (id : OwnershipId) : Bool :=
  (l.rowsOf instrument).any fun row => row.id == id

/-- The ledger with one more row. -/
def push (l : Ledger) (row : Ownership) : Ledger :=
  ⟨l.rows ++ [row]⟩

/-- A new row of its instrument added in place; a second open row is refused. -/
def inserting (row : Ownership) : InPlace Ledger StoreError Unit := do
  let l ← get
  if l.hasRow row.instrument row.id then InPlace.check (refuse row "duplicate row id")
  if row.isActive then
    if let some active := l.active? row.instrument then
      InPlace.check
        (refuse row s!"instrument {row.instrument} already has active row {active.id}")
  modify fun l => l.push row

/-- The ledger with a new row of its instrument. -/
def insert (l : Ledger) (row : Ownership) : Except StoreError Ledger :=
  (inserting row).apply l

/-- The ledger with the stored form of a row replaced. -/
def replace (l : Ledger) (row : Ownership) : List Ownership :=
  l.rows.map fun other =>
    if other.instrument == row.instrument && other.id == row.id then row else other

/-- The open row of an instrument closed in place and its successor added. -/
def transferring (closing opened : Ownership) : InPlace Ledger StoreError Unit := do
  if closing.isActive || !opened.isActive then
    InPlace.check (refuse opened "transfer must close one row and open another")
  if closing.instrument != opened.instrument then
    InPlace.check (refuse opened "transfer rows belong to different instruments")
  let l ← get
  match (l.rowsOf closing.instrument).find? fun row => row.id == closing.id with
  | none => throw (.notFound noun (toString closing.id))
  | some stored =>
      if !stored.isActive then
        InPlace.check (refuse closing "row was already relinquished")
      if l.hasRow closing.instrument opened.id then
        InPlace.check (refuse opened "duplicate row id")
      modify fun l => ⟨l.replace closing⟩
      modify fun l => l.push opened

/-- The ledger with the open row of an instrument closed and its successor added. -/
def transfer (l : Ledger) (closing opened : Ownership) : Except StoreError Ledger :=
  (transferring closing opened).apply l

end Ledger

end DebtMarket
