import DebtMarket.Actor
import DebtMarket.InPlace
import DebtMarket.Money
import DebtMarket.Revision

/-! Bids. A bid offers an amount on a listing. It is resolved once, by being selected or
set aside, and only while it is pending.
-/

namespace DebtMarket

/-- An offer of an amount on a listing. -/
structure Bid where
  id : BidId
  listing : ListingId
  bidder : CompanyId
  bidderUser : UserId
  amount : Amount
  currency : Currency
  validUntil : Option Instant
  status : BidStatus
  revision : Revision
deriving DecidableEq, Repr

/-- What a bidder asks for. -/
structure BidRequest where
  listing : ListingId
  amount : Decimal
  currency : Currency
  validUntil : Option Instant
deriving DecidableEq, Repr

namespace BidRequest

/-- A request without a deadline. -/
def make (listing : ListingId) (amount : Decimal) (currency : Currency) : BidRequest :=
  { listing, amount, currency, validUntil := none }

instance : ToString BidRequest :=
  ⟨fun r =>
    s!"PlaceBidRequest \x7b listing: {r.listing}, {r.amount} {r.currency} \x7d"⟩

end BidRequest

namespace Bid

/-- A new pending bid by the actor's company, up to its identifier. -/
def place (listing : ListingId) (actor : Actor) (amount : Amount) (currency : Currency)
    (validUntil : Option Instant) (now : Instant) (id : BidId) : Bid :=
  {
    id,
    listing,
    bidder := actor.company,
    bidderUser := actor.user,
    amount,
    currency,
    validUntil,
    status := .pending,
    revision := Revision.first now
  }

/-- Whether the bid still waits for an answer. -/
def isPending (b : Bid) : Bool :=
  b.status == .pending

/-- The bid in another status. -/
def moveTo (b : Bid) (target : BidStatus) (now : Instant) : Bid :=
  { b with status := target, revision := b.revision.touch now }

/-- A pending bid given its answer in place. -/
def resolving (answer : BidStatus) (now : Instant) : InPlace Bid MarketError Unit := do
  let b ← get
  if !b.isPending then throw (.notPending b.id b.status)
  modify fun b => b.moveTo answer now

/-- The pending bid with its answer. -/
def resolve (b : Bid) (answer : BidStatus) (now : Instant) : Except MarketError Bid :=
  (resolving answer now).apply b

/-- The bid selected by the seller. -/
def select (b : Bid) (now : Instant) : Except MarketError Bid :=
  b.resolve .selected now

/-- The bid set aside by the seller. -/
def setAside (b : Bid) (now : Instant) : Except MarketError Bid :=
  b.resolve .notSelected now

/-- The bid marked as deleted. -/
def tombstone (b : Bid) (now : Instant) : Bid :=
  { b with revision := b.revision.tombstone now }

end Bid

/-- What the acceptance of a bid did. -/
structure Acceptance where
  selected : Bid
  setAside : List Bid
deriving DecidableEq, Repr

end DebtMarket
