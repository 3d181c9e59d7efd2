import DebtMarket.Operation.Drafting

/-! Offering instruments. The owner of an instrument offers it with a listing; at most one
listing of an instrument is open. A listing is moved while its instrument and then the
listing are locked.
-/

namespace DebtMarket.Operation

/-- The listing of an identifier. -/
def requireListing (id : ListingId) : Operation Listing := do
  let some x ← query (.listing id) | refuse (.notFound .listing id.uuid)
  return x

/-- The listing of an identifier, which has to be open. -/
def requireOpen (id : ListingId) : Operation Listing := do
  let x ← requireListing id
  if !x.isOpen then refuse (.listingNotOpen id x.status)
  return x

/-- An instrument has to be without an open listing. -/
def requireUnoffered (instrument : InstrumentId) : Operation Unit := do
  if let some other ← query (.openListing instrument) then
    refuse (.alreadyOpen instrument other.id)

/-- A new listing of an instrument that the actor's company owns. -/
def createListing (instrument : InstrumentId) (actor : Actor) : Operation Listing := do
  discard (requireInstrument instrument)
  changing (.instrument instrument) do
    let some row ← query (.activeRow instrument)
      | refuse (.noActiveOwner instrument)
    if !actor.actsFor row.owner then refuse (.notOwner instrument actor.company)
    requireUnoffered instrument
    let now ← now
    let x := Listing.start instrument actor now (← draw .listing)
    save (.listing x)
    return .of x (.listingOpened x.id instrument x.seller) now

/-- A listing moved to another status. -/
def transitionListing (id : ListingId) (target : ListingStatus) (actor : Actor)
    : Operation Listing := do
  let seen ← requireListing id
  if seen.status = target then return seen
  changing (.instrument seen.instrument) <| locking (.listing id) do
    let x ← requireListing id
    let previous := x.status
    if previous = target then return .silent x
    discard (check (Policy.authorize (actor.standing x.seller) id.uuid previous target))
    if target = .opened then requireUnoffered x.instrument
    let now ← now
    let x := x.moveTo target now
    save (.listing x)
    return .of x (.listingStatusChanged id previous target) now

end DebtMarket.Operation
