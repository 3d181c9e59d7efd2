import DebtMarket.Operation.Asking
import DebtMarket.Operation.Bidding
import DebtMarket.Operation.Owning
import DebtMarket.Instrument.Wire
import DebtMarket.Listing.Wire
import DebtMarket.Bid.Wire
import DebtMarket.Ask.Wire
import DebtMarket.Ownership.Wire

/-! Commands: the requests that may change the market, each with the operation that
carries it out and the kind of outcome that it has.
-/

namespace DebtMarket

/-- A request that may change the market. -/
inductive Command where
  | createDraft (actor : Actor) (terms : InstrumentTerms)
  | updateDraft (id : InstrumentId) (actor : Actor) (update : DraftUpdate)
  /-- Moves an instrument, and issues it when it becomes active. -/
  | transitionInstrument (id : InstrumentId) (target : InstrumentStatus) (actor : Actor)
  /-- Moves an instrument and does no more. -/
  | moveInstrument (id : InstrumentId) (target : InstrumentStatus) (actor : Actor)
  | recordIssuance (instrument : InstrumentId) (owner : CompanyId)
  | transfer (instrument : InstrumentId) (fromOwner toOwner : CompanyId)
      (reason : AcquisitionReason)
  | createListing (instrument : InstrumentId) (actor : Actor)
  | transitionListing (id : ListingId) (target : ListingStatus) (actor : Actor)
  | placeBid (actor : Actor) (request : BidRequest)
  | transitionBid (id : BidId) (target : BidStatus) (actor : Actor)
  | acceptBid (id : BidId) (actor : Actor)
  | rejectBid (id : BidId) (actor : Actor)
  | placeAsk (actor : Actor) (request : AskRequest)
  | transitionAsk (id : AskId) (target : AskStatus) (actor : Actor)
  | updateAsk (id : AskId) (actor : Actor) (update : AskUpdate)
deriving DecidableEq, Repr

/-- What a command comes to when it succeeds. -/
inductive Outcome where
  | instrument (x : Instrument)
  | transition (t : InstrumentTransition)
  | ownership (row : Ownership)
  | listing (x : Listing)
  | bid (b : Bid)
  | acceptance (a : Acceptance)
  | ask (a : Ask)
deriving DecidableEq, Repr

namespace Outcome

/-- An outcome as it is answered. -/
def view : Outcome → Json
  | instrument x => x.view
  | transition t => t.view
  | ownership row => row.view
  | listing x => x.view
  | bid b => b.view
  | acceptance a => a.view
  | ask a => a.view

end Outcome

namespace Command

/-- The operation that carries a command out. -/
def operation : Command → Operation Outcome
  | createDraft actor terms => .instrument <$> Operation.createDraft actor terms
  | updateDraft id actor update => .instrument <$> Operation.updateDraft id actor update
  | transitionInstrument id target actor =>
      .transition <$> Operation.transitionInstrument id target actor
  | moveInstrument id target actor =>
      .transition <$> Operation.moveInstrument id target actor
  | recordIssuance instrument owner =>
      .ownership <$> Operation.recordIssuance instrument owner
  | transfer instrument fromOwner toOwner reason =>
      .ownership <$> Operation.transfer instrument fromOwner toOwner reason
  | createListing instrument actor =>
      .listing <$> Operation.createListing instrument actor
  | transitionListing id target actor =>
      .listing <$> Operation.transitionListing id target actor
  | placeBid actor request => .bid <$> Operation.placeBid actor request
  | transitionBid id target actor => .bid <$> Operation.transitionBid id target actor
  | acceptBid id actor => .acceptance <$> Operation.acceptBid id actor
  | rejectBid id actor => .bid <$> Operation.rejectBid id actor
  | placeAsk actor request => .ask <$> Operation.placeAsk actor request
  | transitionAsk id target actor => .ask <$> Operation.transitionAsk id target actor
  | updateAsk id actor update => .ask <$> Operation.updateAsk id actor update

end Command

end DebtMarket
