import DebtMarket.Calendar.Instant
import DebtMarket.Ident
import DebtMarket.Status

/-! Refusals. A rule of the market refuses with a market error, the store refuses a write
with a store error, and an operation fails with either. Each has one message and a number
that tells what was wrong.
-/

namespace DebtMarket

/-- What a rule of the market objects to. -/
inductive MarketError where
  | invalidAmount (reason : String)
  | invalidCurrency (spelled : String)
  | invalidValidity (validUntil now : Instant)
  | invalidDate (reason : String)
  | invalidTransferReason (reason : AcquisitionReason)
  | listingNotOpen (listing : ListingId) (status : ListingStatus)
  | notPending (bid : BidId) (status : BidStatus)
  | notActive (ask : AskId) (status : AskStatus)
  | notEditable (instrument : InstrumentId) (status : InstrumentStatus)
  | forbidden (entity : EntityKind) (id : Uuid) (reason : String)
  | selfBid (listing : ListingId) (company : CompanyId)
  | notFound (entity : EntityKind) (id : Uuid)
  | alreadyOpen (instrument : InstrumentId) (listing : ListingId)
  | alreadyOwned (instrument : InstrumentId) (owner : CompanyId)
  | noActiveOwner (instrument : InstrumentId)
  | notOwner (instrument : InstrumentId) (company : CompanyId)
deriving DecidableEq, Repr

namespace MarketError

/-- The message of an error. -/
def message : MarketError → String
  | invalidAmount reason => s!"invalid amount: {reason}"
  | invalidCurrency spelled => s!"invalid currency: {Text.quoted spelled}"
  | invalidValidity validUntil now =>
      s!"invalid validity: valid_until {validUntil} is not after {now}"
  | invalidDate reason => s!"invalid date: {reason}"
  | invalidTransferReason reason => s!"invalid transfer reason: {word reason}"
  | listingNotOpen listing status =>
      s!"listing {listing} is not open (status {word status})"
  | notPending bid status => s!"bid {bid} is not pending (status {word status})"
  | notActive ask status => s!"ask {ask} is not active (status {word status})"
  | notEditable instrument status =>
      s!"instrument {instrument} is not editable (status {word status})"
  | forbidden entity id reason => s!"forbidden on {word entity} {id}: {reason}"
  | selfBid listing company =>
      s!"company {company} cannot bid on its own listing {listing}"
  | notFound entity id => s!"{word entity} not found: {id}"
  | alreadyOpen instrument listing =>
      s!"instrument {instrument} already has open listing {listing}"
  | alreadyOwned instrument owner =>
      s!"company {owner} already owns instrument {instrument}"
  | noActiveOwner instrument => s!"instrument {instrument} has no active owner"
  | notOwner instrument company =>
      s!"company {company} is not the active owner of instrument {instrument}"

/-- The number of an error: its thousands tell the category. -/
def code : MarketError → Nat
  | invalidAmount .. => 1001
  | invalidCurrency .. => 1002
  | invalidValidity .. => 1003
  | invalidDate .. => 1004
  | invalidTransferReason .. => 1005
  | listingNotOpen .. => 2001
  | notPending .. => 2002
  | notActive .. => 2003
  | notEditable .. => 2004
  | forbidden .. => 3001
  | selfBid .. => 3002
  | notFound .. => 4001
  | alreadyOpen .. => 4002
  | alreadyOwned .. => 4003
  | noActiveOwner .. => 4004
  | notOwner .. => 4005

/-- What kind of objection an error is. -/
inductive Category where
  | validation
  | state
  | authority
  | existence
deriving DecidableEq, Repr

/-- The category that the thousands of the code stand for. -/
def category (e : MarketError) : Category :=
  match e.code / 1000 with
  | 1 => .validation
  | 2 => .state
  | 3 => .authority
  | _ => .existence

end MarketError

/-- Why the store refuses a write. -/
inductive StoreError where
  | notFound (entity id : String)
  | versionConflict (entity id : String) (attempted stored : UInt64)
  | constraint (entity id reason : String)
deriving DecidableEq, Repr

namespace StoreError

/-- The message of an error. -/
def message : StoreError → String
  | notFound entity id => s!"{entity} not found: {id}"
  | versionConflict entity id attempted stored =>
      s!"version conflict for {entity} {id}: saving version {attempted}, "
        ++ s!"stored version {stored}"
  | constraint entity id reason => s!"constraint violated for {entity} {id}: {reason}"

/-- The number of an error. -/
def code : StoreError → Nat
  | notFound .. => 5001
  | versionConflict .. => 5002
  | constraint .. => 5003

/-- Whether a write lost against a newer version. -/
def isVersionConflict : StoreError → Bool
  | versionConflict .. => true
  | _ => false

end StoreError

/-- Why an operation fails. -/
inductive Failure where
  | market (error : MarketError)
  | store (error : StoreError)
deriving DecidableEq, Repr

namespace Failure

/-- The message of a failure names the side that refused. -/
def message : Failure → String
  | market e => s!"domain error: {e.message}"
  | store e => s!"repository error: {e.message}"

/-- The number of a failure. -/
def code : Failure → Nat
  | market e => e.code
  | store e => e.code

/-- Whether a write lost against a newer version. -/
def isVersionConflict : Failure → Bool
  | market _ => false
  | store e => e.isVersionConflict

end Failure

end DebtMarket
