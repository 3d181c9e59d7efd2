import DebtMarket.Calendar.InstantReader
import DebtMarket.Fault
import DebtMarket.InPlace

/-! Ownership rows. A row tells that a company owned an instrument from one instant on; it
is closed once, when the company gives the instrument up.
-/

namespace DebtMarket

/-- A stretch of time in which a company owned an instrument. -/
structure Ownership where
  id : OwnershipId
  instrument : InstrumentId
  owner : CompanyId
  acquiredAt : Instant
  relinquishedAt : Option Instant
  reason : AcquisitionReason
deriving DecidableEq, Repr

namespace Ownership

/-- A new open row, up to its identifier. -/
def acquire (instrument : InstrumentId) (owner : CompanyId) (since : Instant)
    (reason : AcquisitionReason) (id : OwnershipId) : Ownership :=
  { id, instrument, owner, acquiredAt := since, relinquishedAt := none, reason }

/-- The first row of an instrument: its issuer owns it from issuance on. -/
def issue (instrument : InstrumentId) (owner : CompanyId) (since : Instant)
    (id : OwnershipId)
    : Ownership :=
  acquire instrument owner since .issuance id

/-- Whether the row is open: its owner still owns the instrument. -/
def isActive (row : Ownership) : Bool :=
  row.relinquishedAt.isNone

/-- An open row closed in place at an instant. -/
def relinquishing (last : Instant) : InPlace Ownership MarketError Unit := do
  let row ← get
  if !row.isActive then throw (.notOwner row.instrument row.owner)
  modify fun row => { row with relinquishedAt := some last }

/-- The open row closed at an instant. -/
def relinquish (row : Ownership) (last : Instant) : Except MarketError Ownership :=
  (relinquishing last).apply row

end Ownership

end DebtMarket
