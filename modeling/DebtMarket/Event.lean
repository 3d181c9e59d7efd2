import DebtMarket.Ident
import DebtMarket.Calendar.InstantReader
import DebtMarket.Status

/-! Events. An event tells what a committed change did: which records it concerned and how
their status or owner moved. It carries an identifier and the time of the change.
-/

namespace DebtMarket

/-- What a committed change did. -/
inductive Happening where
  | instrumentCreated (instrument : InstrumentId) (issuer : CompanyId)
  | instrumentStatusChanged (instrument : InstrumentId) (before after : InstrumentStatus)
      (maturityStatus : MaturityStatus)
  | ownershipIssued (instrument : InstrumentId) (row : OwnershipId) (owner : CompanyId)
  | ownershipTransferred (instrument : InstrumentId) (row : OwnershipId)
      (fromOwner toOwner : CompanyId) (reason : AcquisitionReason)
  | listingOpened (listing : ListingId) (instrument : InstrumentId) (seller : CompanyId)
  | listingStatusChanged (listing : ListingId) (before after : ListingStatus)
  | bidPlaced (bid : BidId) (listing : ListingId) (bidder : CompanyId)
  | bidStatusChanged (bid : BidId) (listing : ListingId) (before after : BidStatus)
  | bidSelected (bid : BidId) (listing : ListingId) (setAside : List BidId)
  | askPlaced (ask : AskId) (listing : ListingId)
  | askStatusChanged (ask : AskId) (listing : ListingId) (before after : AskStatus)
  | askRevised (ask : AskId) (listing : ListingId)
deriving DecidableEq, Repr

/-- A change that was made known. -/
structure Event where
  id : EventId
  occurredAt : Instant
  happening : Happening
deriving DecidableEq, Repr

namespace Happening

/-- The name of a kind of change. -/
def name : Happening → String
  | instrumentCreated .. => "instrument_created"
  | instrumentStatusChanged .. => "instrument_status_changed"
  | ownershipIssued .. => "ownership_issued"
  | ownershipTransferred .. => "ownership_transferred"
  | listingOpened .. => "listing_opened"
  | listingStatusChanged .. => "listing_status_changed"
  | bidPlaced .. => "bid_placed"
  | bidStatusChanged .. => "bid_status_changed"
  | bidSelected .. => "bid_selected"
  | askPlaced .. => "ask_placed"
  | askStatusChanged .. => "ask_status_changed"
  | askRevised .. => "ask_revised"

end Happening

instance : ToString Event :=
  ⟨fun e => s!"{e.happening.name} {e.id} at {e.occurredAt}"⟩

end DebtMarket
