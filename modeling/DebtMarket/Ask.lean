import DebtMarket.Actor
import DebtMarket.InPlace
import DebtMarket.Money
import DebtMarket.Revision

/-! Asks. An ask names the seller's price on a listing. It may be revised while it is
active, and its deadline has to lie in the future whenever one is given.
-/

namespace DebtMarket

/-- The terms of a new ask. -/
structure AskTerms where
  amount : Amount
  currency : Currency
  validUntil : Option Instant
  mode : ExecutionMode
  binding : Bool
deriving DecidableEq, Repr

/-- New terms for an ask; an absent field keeps the old one. -/
structure AskUpdate where
  amount : Option Decimal
  currency : Option Currency
  validUntil : Option Instant
deriving DecidableEq, Repr

/-- The seller's price on a listing. -/
structure Ask where
  id : AskId
  listing : ListingId
  asker : CompanyId
  askerUser : UserId
  amount : Amount
  currency : Currency
  validUntil : Option Instant
  mode : ExecutionMode
  binding : Bool
  status : AskStatus
  revision : Revision
deriving DecidableEq, Repr

/-- What a seller asks for. -/
structure AskRequest where
  listing : ListingId
  amount : Decimal
  currency : Currency
  validUntil : Option Instant
  mode : ExecutionMode
  binding : Bool
deriving DecidableEq, Repr

namespace AskRequest

/-- A request without a deadline, by hand and not binding. -/
def make (listing : ListingId) (amount : Decimal) (currency : Currency) : AskRequest :=
  { listing, amount, currency, validUntil := none, mode := default, binding := false }

instance : ToString AskRequest :=
  ⟨fun r =>
    s!"PlaceAskRequest \x7b listing: {r.listing}, {r.amount} {r.currency} "
      ++ s!"{word r.mode} \x7d"⟩

end AskRequest

namespace Ask

/-- A deadline has to lie in the future. -/
def checkDeadline (validUntil now : Instant) : Except MarketError Unit :=
  if validUntil ≤ now then .error (.invalidValidity validUntil now) else .ok ()

/-- A new active ask by the actor's company, up to its identifier. -/
def place (listing : ListingId) (actor : Actor) (terms : AskTerms) (now : Instant)
    : Except MarketError (AskId → Ask) := do
  terms.validUntil.forM fun deadline => checkDeadline deadline now
  return fun id => {
    id,
    listing,
    asker := actor.company,
    askerUser := actor.user,
    amount := terms.amount,
    currency := terms.currency,
    validUntil := terms.validUntil,
    mode := terms.mode,
    binding := terms.binding,
    status := .active,
    revision := Revision.first now
  }

/-- Whether the ask may be revised. -/
def isActive (a : Ask) : Bool :=
  a.status.isActive

/-- An ask put under new terms in place; all given fields are checked before any is written.
-/
def revising (u : AskUpdate) (now : Instant) : InPlace Ask MarketError Unit := do
  let a ← get
  if !a.isActive then throw (.notActive a.id a.status)
  let amount ← InPlace.check (u.amount.mapM Amount.make)
  InPlace.check (u.validUntil.forM fun deadline => checkDeadline deadline now)
  InPlace.write amount fun amount a => { a with amount }
  InPlace.write u.currency fun currency a => { a with currency }
  InPlace.write u.validUntil fun deadline a => { a with validUntil := some deadline }
  modify fun a => { a with revision := a.revision.touch now }

/-- The ask under new terms. -/
def applyUpdate (a : Ask) (u : AskUpdate) (now : Instant) : Except MarketError Ask :=
  (revising u now).apply a

/-- The ask in another status. -/
def moveTo (a : Ask) (target : AskStatus) (now : Instant) : Ask :=
  { a with status := target, revision := a.revision.touch now }

/-- The ask marked as deleted. -/
def tombstone (a : Ask) (now : Instant) : Ask :=
  { a with revision := a.revision.tombstone now }

end Ask

end DebtMarket
