import DebtMarket.Actor
import DebtMarket.InPlace
import DebtMarket.Money
import DebtMarket.Revision

/-! Debt instruments. An instrument is drafted from terms by its issuer, edited while it
is a draft, and moved through its life by whoever the policy allows. Amounts have to be
positive and the maturity date has to lie after the day of the draft or edit.
-/

namespace DebtMarket

/-- The terms of a new instrument. -/
structure InstrumentTerms where
  name : String
  faceValue : Decimal
  currency : Currency
  maturityDate : Date
  maturityPayment : Decimal
  publicPayload : Option Json
deriving DecidableEq, Repr

/-- New terms for a draft; an absent field keeps the old one. -/
structure DraftUpdate where
  name : Option String
  faceValue : Option Decimal
  currency : Option Currency
  maturityDate : Option Date
  maturityPayment : Option Decimal
  publicPayload : Option Json
deriving DecidableEq, Repr

/-- A debt instrument. -/
structure Instrument where
  id : InstrumentId
  issuer : CompanyId
  createdBy : UserId
  name : String
  faceValue : Amount
  currency : Currency
  maturityDate : Date
  maturityPayment : Amount
  publicPayload : Option Json
  status : InstrumentStatus
  maturityStatus : MaturityStatus
  tradingStatus : TradingStatus
  revision : Revision
deriving DecidableEq, Repr

namespace DraftUpdate

/-- Whether no field is given. -/
def isEmpty (u : DraftUpdate) : Bool :=
  u.name.isNone && u.faceValue.isNone && u.currency.isNone && u.maturityDate.isNone
    && u.maturityPayment.isNone && u.publicPayload.isNone

end DraftUpdate

namespace Instrument

/-- A maturity date has to lie after the present day. -/
def checkMaturity (date : Date) (now : Instant) : Except MarketError Unit :=
  if date.rank ≤ now.date.rank then
    .error (.invalidDate s!"maturity date {date} must be after {now.date}")
  else .ok ()

/-- A draft on the given terms, up to its identifier. -/
def draft (terms : InstrumentTerms) (issuer : CompanyId) (createdBy : UserId)
    (now : Instant)
    : Except MarketError (InstrumentId → Instrument) := do
  let faceValue ← Amount.make terms.faceValue
  let maturityPayment ← Amount.make terms.maturityPayment
  checkMaturity terms.maturityDate now
  return fun id => {
    id,
    issuer,
    createdBy,
    name := terms.name,
    faceValue,
    currency := terms.currency,
    maturityDate := terms.maturityDate,
    maturityPayment,
    publicPayload := terms.publicPayload,
    status := .draft,
    maturityStatus := .notDue,
    tradingStatus := .draft,
    revision := Revision.first now
  }

/-- Whether the terms may be edited. -/
def isEditable (x : Instrument) : Bool :=
  x.status.isEditable

/-- A draft put under new terms in place; all given fields are checked before any is written.
-/
def revising (u : DraftUpdate) (now : Instant) : InPlace Instrument MarketError Unit := do
  let x ← get
  if !x.isEditable then throw (.notEditable x.id x.status)
  let faceValue ← InPlace.check (u.faceValue.mapM Amount.make)
  let maturityPayment ← InPlace.check (u.maturityPayment.mapM Amount.make)
  InPlace.check (u.maturityDate.forM fun date => checkMaturity date now)
  InPlace.write u.name fun name x => { x with name }
  InPlace.write faceValue fun faceValue x => { x with faceValue }
  InPlace.write u.currency fun currency x => { x with currency }
  InPlace.write u.maturityDate fun maturityDate x => { x with maturityDate }
  InPlace.write maturityPayment fun maturityPayment x => { x with maturityPayment }
  InPlace.write u.publicPayload fun payload x => { x with publicPayload := some payload }
  modify fun x => { x with revision := x.revision.touch now }

/-- The instrument under new terms. -/
def applyUpdate (x : Instrument) (u : DraftUpdate) (now : Instant)
    : Except MarketError Instrument :=
  (revising u now).apply x

/-- The instrument in another status; its maturity falls due when it becomes active. -/
def moveTo (x : Instrument) (target : InstrumentStatus) (now : Instant) : Instrument :=
  {
    x with
    status := target,
    maturityStatus := if target = .active then .due else x.maturityStatus,
    revision := x.revision.touch now
  }

/-- The instrument marked as deleted. -/
def tombstone (x : Instrument) (now : Instant) : Instrument :=
  { x with revision := x.revision.tombstone now }

end Instrument

/-- What a transition of an instrument did. -/
structure InstrumentTransition where
  instrument : Instrument
  previous : InstrumentStatus
deriving DecidableEq, Repr

namespace InstrumentTransition

/-- Whether the transition made the instrument active. -/
def activated (t : InstrumentTransition) : Bool :=
  t.previous != .active && t.instrument.status == .active

end InstrumentTransition

end DebtMarket
