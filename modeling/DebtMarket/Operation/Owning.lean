import DebtMarket.Operation.Drafting

/-! Owning instruments. An instrument is issued to its first owner and then handed from
owner to owner; it never has two owners at once. An instrument that becomes active is
issued to its issuer.
-/

namespace DebtMarket.Operation

/-- The first ownership row of an instrument. -/
def recordIssuance (instrument : InstrumentId) (owner : CompanyId)
    : Operation Ownership :=
  changing (.instrument instrument) do
    if let some active ← query (.activeRow instrument) then
      refuse (.alreadyOwned instrument active.owner)
    let now ← now
    let row := Ownership.issue instrument owner now (← draw .ownership)
    save (.row row)
    return .of row (.ownershipIssued instrument row.id owner) now

/-- The open row of an instrument, which has to be of a given owner. -/
def requireOwner (instrument : InstrumentId) (owner : CompanyId)
    : Operation Ownership := do
  let some row ← query (.activeRow instrument)
    | refuse (.notOwner instrument owner)
  if row.owner != owner then refuse (.notOwner instrument owner)
  return row

/-- An instrument handed from its owner to another company; the answer is the new row. -/
def transfer (instrument : InstrumentId) (fromOwner toOwner : CompanyId)
    (reason : AcquisitionReason) : Operation Ownership := do
  if reason = .issuance then refuse (.invalidTransferReason reason)
  changing (.instrument instrument) do
    let active ← requireOwner instrument fromOwner
    if toOwner = active.owner then refuse (.alreadyOwned instrument toOwner)
    let now ← now
    let closing ← check (active.relinquish now)
    let opened :=
      Ownership.acquire instrument toOwner now reason (← draw .ownership)
    save (.transfer closing opened)
    return .of opened
      (.ownershipTransferred instrument opened.id fromOwner toOwner reason) now

/-- An instrument moved to another status; one that becomes active is issued to its
issuer. The move stays even if the issuance is refused.
-/
def transitionInstrument (id : InstrumentId) (target : InstrumentStatus) (actor : Actor)
    : Operation InstrumentTransition := do
  let transition ← moveInstrument id target actor
  if transition.activated then
    discard (recordIssuance id transition.instrument.issuer)
  return transition

end DebtMarket.Operation
