import DebtMarket.Operation.Offering

/-! Bidding on listings. Any company but the seller bids on an open listing; the seller
accepts one pending bid, which sets the other pending bids aside, or rejects a bid alone.
-/

namespace DebtMarket.Operation

/-- The bid of an identifier. -/
def requireBid (id : BidId) : Operation Bid := do
  let some b ← query (.bid id) | refuse (.notFound .bid id.uuid)
  return b

/-- A new bid on an open listing of another company. -/
def placeBid (actor : Actor) (request : BidRequest) : Operation Bid :=
  changing (.listing request.listing) do
    let listing ← requireOpen request.listing
    if actor.actsFor listing.seller then refuse (.selfBid request.listing actor.company)
    let amount ← check (Amount.make request.amount)
    let now ← now
    let b :=
      Bid.place request.listing actor amount request.currency request.validUntil now
        (← draw .bid)
    save (.bid b)
    return .of b (.bidPlaced b.id request.listing b.bidder) now

/-- A bid moved to another status, while its listing is open. -/
def transitionBid (id : BidId) (target : BidStatus) (actor : Actor) : Operation Bid := do
  let seen ← requireBid id
  if seen.status = target then return seen
  changing (.listing seen.listing) do
    let b ← requireBid id
    let previous := b.status
    if previous = target then return .silent b
    discard (requireOpen seen.listing)
    discard (check (Policy.authorize (actor.standing b.bidder) id.uuid previous target))
    let now ← now
    let b := b.moveTo target now
    save (.bid b)
    return .of b (.bidStatusChanged id seen.listing previous target) now

/-- The pending bid of an identifier, which the actor may resolve: its listing is open and
sold by the actor's company.
-/
def requireResolvable (id : BidId) (actor : Actor) : Operation Bid := do
  let b ← requireBid id
  if !b.isPending then refuse (.notPending id b.status)
  let listing ← requireOpen b.listing
  if !actor.actsFor listing.seller then
    refuse
      (.forbidden .bid id.uuid
        s!"only the seller of listing {listing.id} may resolve its bids")
  return b

/-- A bid selected by the seller; every other pending bid on the listing is set aside in
the same write.
-/
def acceptBid (id : BidId) (actor : Actor) : Operation Acceptance := do
  let seen ← requireBid id
  changing (.listing seen.listing) do
    let b ← requireResolvable id actor
    let now ← now
    let selected ← check (b.select now)
    let bids ← query (.bidsFor seen.listing)
    let others := bids.filter fun other => other.id != id && other.isPending
    let setAside ← check (others.mapM fun other => other.setAside now)
    save (.bids (selected :: setAside))
    return .of ⟨selected, setAside⟩
      (.bidSelected id seen.listing (setAside.map Bid.id)) now

/-- A bid set aside by the seller. -/
def rejectBid (id : BidId) (actor : Actor) : Operation Bid := do
  let seen ← requireBid id
  changing (.listing seen.listing) do
    let b ← requireResolvable id actor
    let now ← now
    let previous := b.status
    let b ← check (b.setAside now)
    save (.bid b)
    return .of b (.bidStatusChanged id seen.listing previous b.status) now

end DebtMarket.Operation
