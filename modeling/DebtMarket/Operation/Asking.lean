import DebtMarket.Operation.Offering

/-! Asking on listings. The seller names a price on an open listing, and revises or
withdraws it.
-/

namespace DebtMarket.Operation

/-- The ask of an identifier. -/
def requireAsk (id : AskId) : Operation Ask := do
  let some a ← query (.ask id) | refuse (.notFound .ask id.uuid)
  return a

/-- A new ask on an open listing of the actor's company. -/
def placeAsk (actor : Actor) (request : AskRequest) : Operation Ask :=
  changing (.listing request.listing) do
    let listing ← requireOpen request.listing
    if !actor.actsFor listing.seller then
      refuse
        (.forbidden .listing request.listing.uuid "only the seller may ask on a listing")
    let now ← now
    let amount ← check (Amount.make request.amount)
    let terms : AskTerms := {
      amount,
      currency := request.currency,
      validUntil := request.validUntil,
      mode := request.mode,
      binding := request.binding
    }
    let make ← check (Ask.place request.listing actor terms now)
    let a := make (← draw .ask)
    save (.ask a)
    return .of a (.askPlaced a.id request.listing) now

/-- An ask moved to another status, while its listing is open. -/
def transitionAsk (id : AskId) (target : AskStatus) (actor : Actor) : Operation Ask := do
  let seen ← requireAsk id
  if seen.status = target then return seen
  changing (.listing seen.listing) do
    let a ← requireAsk id
    let previous := a.status
    if previous = target then return .silent a
    discard (requireOpen seen.listing)
    discard (check (Policy.authorize (actor.standing a.asker) id.uuid previous target))
    let now ← now
    let a := a.moveTo target now
    save (.ask a)
    return .of a (.askStatusChanged id seen.listing previous target) now

/-- An active ask under new terms, revised by its asker. -/
def updateAsk (id : AskId) (actor : Actor) (update : AskUpdate) : Operation Ask := do
  let seen ← requireAsk id
  changing (.listing seen.listing) do
    let a ← requireAsk id
    if !a.isActive then refuse (.notActive id a.status)
    discard (requireOpen seen.listing)
    if !actor.actsFor a.asker then
      refuse (.forbidden .ask id.uuid "only the asker may revise an ask")
    let now ← now
    let a ← check (a.applyUpdate update now)
    save (.ask a)
    return .of a (.askRevised id seen.listing) now

end DebtMarket.Operation
