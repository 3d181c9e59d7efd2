import DebtMarket.Actor
import DebtMarket.Revision

/-! Listings. A listing offers one instrument on behalf of the company that sells it. -/

namespace DebtMarket

/-- An offer of an instrument. -/
structure Listing where
  id : ListingId
  instrument : InstrumentId
  seller : CompanyId
  creator : UserId
  status : ListingStatus
  revision : Revision
deriving DecidableEq, Repr

namespace Listing

/-- A new open listing by the actor's company, up to its identifier. -/
def start (instrument : InstrumentId) (actor : Actor) (now : Instant) (id : ListingId)
    : Listing :=
  {
    id,
    instrument,
    seller := actor.company,
    creator := actor.user,
    status := .opened,
    revision := Revision.first now
  }

/-- Whether bids and asks may move on the listing. -/
def isOpen (x : Listing) : Bool :=
  x.status.isOpen

/-- Whether the listing offers an instrument right now. -/
def offers (x : Listing) (instrument : InstrumentId) : Bool :=
  x.instrument == instrument && x.isOpen && !x.revision.isDeleted

/-- The listing in another status. -/
def moveTo (x : Listing) (target : ListingStatus) (now : Instant) : Listing :=
  { x with status := target, revision := x.revision.touch now }

/-- The listing marked as deleted. -/
def tombstone (x : Listing) (now : Instant) : Listing :=
  { x with revision := x.revision.tombstone now }

end Listing

end DebtMarket
