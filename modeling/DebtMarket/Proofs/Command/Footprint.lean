import DebtMarket.Proofs.Store.View

/-! The footprint of a command: the records that it is given or creates, and those that they
belong to. A bid or an ask counts with the listing that it is stored for, and a listing that is
moved with its instrument; companies, users and the rows of the ledger do not count. A command
asks the store about its footprint only.
-/

namespace DebtMarket

namespace Store

variable {s : Store}

/-- A bid with the listing that it is stored for, if it is. -/
def bidFootprint (s : Store) (id : BidId) : List EntityId :=
  .bid id :: ((s.bids.find? id).map fun b => EntityId.listing b.listing).toList

/-- An ask with the listing that it is stored for, if it is. -/
def askFootprint (s : Store) (id : AskId) : List EntityId :=
  .ask id :: ((s.asks.find? id).map fun a => EntityId.listing a.listing).toList

/-- A listing with its instrument, if it is stored. -/
def listingFootprint (s : Store) (id : ListingId) : List EntityId :=
  .listing id :: ((s.listings.find? id).map fun x => EntityId.instrument x.instrument).toList

theorem mem_bidFootprint {id : BidId} {b : Bid} (found : s.bids.find? id = some b)
    : .listing b.listing ∈ s.bidFootprint id := by
  simp [bidFootprint, found]

theorem mem_askFootprint {id : AskId} {a : Ask} (found : s.asks.find? id = some a)
    : .listing a.listing ∈ s.askFootprint id := by
  simp [askFootprint, found]

theorem mem_listingFootprint {id : ListingId} {x : Listing}
    (found : s.listings.find? id = some x)
    : .instrument x.instrument ∈ s.listingFootprint id := by
  simp [listingFootprint, found]

end Store

namespace Command

/-- The records that a command is given or creates on a store, and those that they belong to. -/
def footprint (g : Given) (s : Store) : Command → List EntityId
  | createDraft _ _ => [.instrument (g.id .instrument)]
  | updateDraft id _ _ | transitionInstrument id _ _ | moveInstrument id _ _
  | recordIssuance id _ | transfer id _ _ _ => [.instrument id]
  | createListing instrument _ => [.instrument instrument, .listing (g.id .listing)]
  | transitionListing id _ _ => s.listingFootprint id
  | placeBid _ request => [.listing request.listing, .bid (g.id .bid)]
  | transitionBid id _ _ | acceptBid id _ | rejectBid id _ => s.bidFootprint id
  | placeAsk _ request => [.listing request.listing, .ask (g.id .ask)]
  | transitionAsk id _ _ | updateAsk id _ _ => s.askFootprint id

/-- A query is about the footprint of a command. -/
def Reads (c : Command) (g : Given) (s : Store) (q : Query) : Prop :=
  q.subject ∈ c.footprint g s

end Command

end DebtMarket
