import DebtMarket.Operation

/-! Drafting and approving instruments. Anyone may draft an instrument; its issuer edits
the draft, and the policy says who moves it on.
-/

namespace DebtMarket.Operation

/-- The instrument of an identifier. -/
def requireInstrument (id : InstrumentId) : Operation Instrument := do
  let some x ← query (.instrument id) | refuse (.notFound .instrument id.uuid)
  return x

/-- A new draft, issued by the actor's company. -/
def createDraft (actor : Actor) (terms : InstrumentTerms) : Operation Instrument := do
  let now ← now
  let make ← check (Instrument.draft terms actor.company actor.user now)
  let x := make (← draw .instrument)
  save (.instrument x)
  announce (Change.of x (.instrumentCreated x.id x.issuer) now)

/-- A draft under new terms; an update without any field changes nothing. -/
def updateDraft (id : InstrumentId) (actor : Actor) (update : DraftUpdate)
    : Operation Instrument :=
  changing (.instrument id) do
    let x ← requireInstrument id
    if !x.isEditable then refuse (.notEditable id x.status)
    if !actor.actsFor x.issuer then
      refuse (.forbidden .instrument id.uuid "only the issuer may edit a draft")
    if update.isEmpty then return .silent x
    let now ← now
    let x ← check (x.applyUpdate update now)
    save (.instrument x)
    return .silent x

/-- An instrument moved to another status, without any record of who owns it. -/
def moveInstrument (id : InstrumentId) (target : InstrumentStatus) (actor : Actor)
    : Operation InstrumentTransition :=
  changing (.instrument id) do
    let x ← requireInstrument id
    let previous := x.status
    if previous = target then return .silent ⟨x, previous⟩
    discard (check (Policy.authorize (actor.standing x.issuer) id.uuid previous target))
    let now ← now
    let x := x.moveTo target now
    save (.instrument x)
    return .of ⟨x, previous⟩
      (.instrumentStatusChanged id previous target x.maturityStatus) now

end DebtMarket.Operation
