import DebtMarket.Proofs.Command.Footprint
import DebtMarket.Proofs.Operation.Achieves
import DebtMarket.Proofs.Operation.Atomicity

/-! What commands do when they succeed. For every command there is one clause for each way
to succeed: what was found in the store, what is written, what the outcome is and what is
made known. A command that the store refuses would have succeeded in one of these ways, had
its write been accepted. All that is proved about the records of the market goes through
these clauses.
-/

namespace DebtMarket

/-- A way in which a command succeeds on a store: its outcome, its write and its notice. -/
inductive Performs (g : Given) (s : Store)
    : Command → Outcome → Option Write → Option (Happening × Instant) → Prop
  | createDraft {actor terms make}
    (checked : Instrument.draft terms actor.company actor.user g.instant = .ok make)
    : Performs g s (.createDraft actor terms) (.instrument (make (g.id .instrument)))
        (some (.instrument (make (g.id .instrument))))
        (some (.instrumentCreated (make (g.id .instrument)).id
          (make (g.id .instrument)).issuer, g.instant))
  | keepDraft {id actor update x} (stored : s.instruments.get? id = some x)
    (editable : x.isEditable = true) (issuer : actor.actsFor x.issuer = true)
    (empty : update.isEmpty = true)
    : Performs g s (.updateDraft id actor update) (.instrument x) none none
  | updateDraft {id actor update x x'} (stored : s.instruments.get? id = some x)
    (editable : x.isEditable = true) (issuer : actor.actsFor x.issuer = true)
    (nonempty : update.isEmpty = false)
    (applied : x.applyUpdate update g.instant = .ok x')
    : Performs g s (.updateDraft id actor update) (.instrument x')
        (some (.instrument x')) none
  | keepInstrument {id target actor x} (stored : s.instruments.get? id = some x)
    (same : x.status = target)
    : Performs g s (.moveInstrument id target actor) (.transition ⟨x, target⟩) none none
  | moveInstrument {id target actor x verdict} (stored : s.instruments.get? id = some x)
    (other : x.status ≠ target)
    (permitted
      : Policy.authorize (actor.standing x.issuer) id.uuid x.status target = .ok verdict)
    : Performs g s (.moveInstrument id target actor)
        (.transition ⟨x.moveTo target g.instant, x.status⟩)
        (some (.instrument (x.moveTo target g.instant)))
        (some (.instrumentStatusChanged id x.status target
          (x.moveTo target g.instant).maturityStatus, g.instant))
  | recordIssuance {instrument owner}
    (unowned : s.ledger.active? instrument = none)
    : Performs g s (.recordIssuance instrument owner)
        (.ownership (Ownership.issue instrument owner g.instant (g.id .ownership)))
        (some (.row (Ownership.issue instrument owner g.instant (g.id .ownership))))
        (some (.ownershipIssued instrument (g.id .ownership) owner, g.instant))
  | transfer {instrument fromOwner toOwner reason active closing}
    (handed : reason ≠ .issuance)
    (owned : s.ledger.active? instrument = some active)
    (giver : active.owner = fromOwner) (taker : toOwner ≠ active.owner)
    (closed : active.relinquish g.instant = .ok closing)
    : Performs g s (.transfer instrument fromOwner toOwner reason)
        (.ownership
          (Ownership.acquire instrument toOwner g.instant reason (g.id .ownership)))
        (some (.transfer closing
          (Ownership.acquire instrument toOwner g.instant reason (g.id .ownership))))
        (some (.ownershipTransferred instrument (g.id .ownership) fromOwner toOwner
          reason, g.instant))
  | createListing {instrument actor x row} (stored : s.instruments.get? instrument = some x)
    (owned : s.ledger.active? instrument = some row)
    (owner : actor.actsFor row.owner = true)
    (unoffered : s.openListing? instrument = none)
    : Performs g s (.createListing instrument actor)
        (.listing (Listing.start instrument actor g.instant (g.id .listing)))
        (some (.listing (Listing.start instrument actor g.instant (g.id .listing))))
        (some (.listingOpened (g.id .listing) instrument actor.company, g.instant))
  | keepListing {id target actor x} (stored : s.listings.get? id = some x)
    (same : x.status = target)
    : Performs g s (.transitionListing id target actor) (.listing x) none none
  | transitionListing {id target actor x verdict} (stored : s.listings.get? id = some x)
    (other : x.status ≠ target)
    (permitted
      : Policy.authorize (actor.standing x.seller) id.uuid x.status target = .ok verdict)
    (unoffered : target = .opened → s.openListing? x.instrument = none)
    : Performs g s (.transitionListing id target actor)
        (.listing (x.moveTo target g.instant))
        (some (.listing (x.moveTo target g.instant)))
        (some (.listingStatusChanged id x.status target, g.instant))
  | placeBid {actor request listing amount}
    (stored : s.listings.get? request.listing = some listing)
    (isOpen : listing.isOpen = true) (foreign : actor.actsFor listing.seller = false)
    (checked : Amount.make request.amount = .ok amount)
    : Performs g s (.placeBid actor request)
        (.bid (Bid.place request.listing actor amount request.currency request.validUntil
          g.instant (g.id .bid)))
        (some (.bid (Bid.place request.listing actor amount request.currency
          request.validUntil g.instant (g.id .bid))))
        (some (.bidPlaced (g.id .bid) request.listing actor.company, g.instant))
  | keepBid {id target actor b} (stored : s.bids.get? id = some b)
    (same : b.status = target)
    : Performs g s (.transitionBid id target actor) (.bid b) none none
  | transitionBid {id target actor b listing verdict} (stored : s.bids.get? id = some b)
    (other : b.status ≠ target) (listed : s.listings.get? b.listing = some listing)
    (isOpen : listing.isOpen = true)
    (permitted
      : Policy.authorize (actor.standing b.bidder) id.uuid b.status target = .ok verdict)
    : Performs g s (.transitionBid id target actor) (.bid (b.moveTo target g.instant))
        (some (.bid (b.moveTo target g.instant)))
        (some (.bidStatusChanged id b.listing b.status target, g.instant))
  | acceptBid {id actor b listing selected setAside} (stored : s.bids.get? id = some b)
    (pending : b.isPending = true) (listed : s.listings.get? b.listing = some listing)
    (isOpen : listing.isOpen = true) (seller : actor.actsFor listing.seller = true)
    (select : b.select g.instant = .ok selected)
    (others
      : ((s.bidsFor b.listing).filter fun other => other.id != id && other.isPending).mapM
          (fun other => other.setAside g.instant) = .ok setAside)
    : Performs g s (.acceptBid id actor) (.acceptance ⟨selected, setAside⟩)
        (some (.bids (selected :: setAside)))
        (some (.bidSelected id b.listing (setAside.map Bid.id), g.instant))
  | rejectBid {id actor b listing b'} (stored : s.bids.get? id = some b)
    (pending : b.isPending = true) (listed : s.listings.get? b.listing = some listing)
    (isOpen : listing.isOpen = true) (seller : actor.actsFor listing.seller = true)
    (reject : b.setAside g.instant = .ok b')
    : Performs g s (.rejectBid id actor) (.bid b') (some (.bid b'))
        (some (.bidStatusChanged id b.listing b.status b'.status, g.instant))
  | placeAsk {actor request listing amount make}
    (stored : s.listings.get? request.listing = some listing)
    (isOpen : listing.isOpen = true) (seller : actor.actsFor listing.seller = true)
    (checked : Amount.make request.amount = .ok amount)
    (made
      : Ask.place request.listing actor
          ⟨amount, request.currency, request.validUntil, request.mode, request.binding⟩
          g.instant = .ok make)
    : Performs g s (.placeAsk actor request) (.ask (make (g.id .ask)))
        (some (.ask (make (g.id .ask))))
        (some (.askPlaced (make (g.id .ask)).id request.listing, g.instant))
  | keepAsk {id target actor a} (stored : s.asks.get? id = some a)
    (same : a.status = target)
    : Performs g s (.transitionAsk id target actor) (.ask a) none none
  | transitionAsk {id target actor a listing verdict} (stored : s.asks.get? id = some a)
    (other : a.status ≠ target) (listed : s.listings.get? a.listing = some listing)
    (isOpen : listing.isOpen = true)
    (permitted
      : Policy.authorize (actor.standing a.asker) id.uuid a.status target = .ok verdict)
    : Performs g s (.transitionAsk id target actor) (.ask (a.moveTo target g.instant))
        (some (.ask (a.moveTo target g.instant)))
        (some (.askStatusChanged id a.listing a.status target, g.instant))
  | updateAsk {id actor update a listing a'} (stored : s.asks.get? id = some a)
    (active : a.isActive = true) (listed : s.listings.get? a.listing = some listing)
    (isOpen : listing.isOpen = true) (asker : actor.actsFor a.asker = true)
    (applied : a.applyUpdate update g.instant = .ok a')
    : Performs g s (.updateAsk id actor update) (.ask a') (some (.ask a'))
        (some (.askRevised id a.listing, g.instant))

/-- A command has succeeded in one of its ways, with its write accepted. -/
def Performed (g : Given) (s : Store) (c : Command) (outcome : Outcome) (s' : Store)
    (notices : List (Happening × Instant))
    : Prop :=
  ∃ w notice, Performs g s c outcome w notice ∧ s.Wrote w s' ∧ notices = notice.toList

/-- A command was about to succeed in one of its ways, but the store refused its write. -/
def Refused (g : Given) (s : Store) (c : Command) (e : StoreError) : Prop :=
  ∃ outcome w notice, Performs g s c outcome (some w) notice ∧ s.write w = .error e

/-- A store that a command makes of another one by its write. -/
def Command.Yields (c : Command) (s s' : Store) : Prop :=
  ∃ g outcome w notice, Performs g s c outcome (some w) notice ∧ s.write w = .ok s'

-----------------------------------------------------------------------------------------
-- Every command goes one of its ways
-----------------------------------------------------------------------------------------

/-- An outcome, a write and the notices of one way in which a command succeeds. -/
def Comes (g : Given) (s : Store) (c : Command) (outcome : Outcome) (w : Option Write)
    (notices : List (Happening × Instant))
    : Prop :=
  ∃ notice, Performs g s c outcome w notice ∧ notices = notice.toList

theorem Performs.comes {g : Given} {s : Store} {c : Command} {outcome : Outcome}
    {w : Option Write} {notice : Option (Happening × Instant)}
    (h : Performs g s c outcome w notice)
    : Comes g s c outcome w notice.toList :=
  ⟨notice, h, rfl⟩

/-- A command asks about its footprint only, and succeeds in no other than its ways. -/
def Command.Walks (g : Given) (s : Store) (c : Command) : Prop :=
  c.operation.Along (c.Reads g s) g s (Comes g s c)

namespace Operation

variable {g : Given} {s : Store}

theorem walks_createDraft (actor : Actor) (terms : InstrumentTerms)
    : (Command.createDraft actor terms).Walks g s := by
  refine .map (.now_bind (.check_bind fun make checked => ?_))
  exact .draw_bind (.save_announce (Performs.createDraft checked).comes)

theorem walks_updateDraft (id : InstrumentId) (actor : Actor) (update : DraftUpdate)
    : (Command.updateDraft id actor update).Walks g s := by
  refine .map (.changing ?_)
  refine .requireInstrument_bind List.mem_cons_self fun x stored => ?_
  refine .ite (fun _ => .refuse _) fun editable => ?_
  refine .ite (fun _ => .refuse _) fun issuer => ?_
  have editable : x.isEditable = true := by simpa using editable
  have issuer : actor.actsFor x.issuer = true := by simpa using issuer
  refine .ite (fun empty => .pure ?_) fun nonempty => ?_
  · exact (Performs.keepDraft stored editable issuer empty).comes
  have nonempty : update.isEmpty = false := by simpa using nonempty
  refine .now_bind (.check_bind fun x' applied => ?_)
  exact .save_pure (Performs.updateDraft stored editable issuer nonempty applied).comes

theorem walks_moveInstrument (id : InstrumentId) (target : InstrumentStatus) (actor : Actor)
    : (Command.moveInstrument id target actor).Walks g s := by
  refine .map (.changing ?_)
  refine .requireInstrument_bind List.mem_cons_self fun x stored => ?_
  refine .ite (fun same => .pure ?_) fun other => ?_
  · subst same
    exact (Performs.keepInstrument stored rfl).comes
  refine .discard_bind (.check_bind fun verdict permitted => ?_)
  exact .now_bind (.save_pure (Performs.moveInstrument stored other permitted).comes)

theorem walks_recordIssuance (instrument : InstrumentId) (owner : CompanyId)
    : (Command.recordIssuance instrument owner).Walks g s := by
  refine .map (.changing (.query_bind List.mem_cons_self ?_))
  simp only [Store.answer]
  cases unowned : s.ledger.active? instrument with
  | some active => exact .refuse _
  | none =>
      exact .now_bind (.draw_bind (.save_pure (Performs.recordIssuance unowned).comes))

theorem walks_transfer (instrument : InstrumentId) (fromOwner toOwner : CompanyId)
    (reason : AcquisitionReason)
    : (Command.transfer instrument fromOwner toOwner reason).Walks g s := by
  refine .map (.ite (fun _ => .refuse _) fun handed => .changing ?_)
  refine .requireOwner_bind List.mem_cons_self fun active owned giver => ?_
  refine .ite (fun _ => .refuse _) fun taker => ?_
  refine .now_bind (.check_bind fun closing closed => ?_)
  exact .draw_bind (.save_pure (Performs.transfer handed owned giver taker closed).comes)

theorem walks_createListing (instrument : InstrumentId) (actor : Actor)
    : (Command.createListing instrument actor).Walks g s := by
  refine .map (.discard_bind (.requireInstrument_bind List.mem_cons_self fun x stored => ?_))
  refine .changing (.query_bind List.mem_cons_self ?_)
  simp only [Store.answer]
  cases owned : s.ledger.active? instrument with
  | none => exact .refuse _
  | some row =>
      refine .ite (fun _ => .refuse _) fun owner => ?_
      refine .requireUnoffered_bind List.mem_cons_self fun unoffered => ?_
      have owner : actor.actsFor row.owner = true := by simpa using owner
      have performs := Performs.createListing (g := g) stored owned owner unoffered
      exact .now_bind (.draw_bind (.save_pure performs.comes))

theorem walks_transitionListing (id : ListingId) (target : ListingStatus) (actor : Actor)
    : (Command.transitionListing id target actor).Walks g s := by
  refine .map (.requireListing_bind List.mem_cons_self fun seen stored => ?_)
  refine .ite (fun same => .pure (Performs.keepListing stored same).comes) fun other => ?_
  refine .changing (.locking ?_)
  refine .requireListing_bind List.mem_cons_self fun x again => ?_
  cases Option.some.inj (stored.symm.trans again)
  refine .ite (fun same => absurd same other) fun _ => ?_
  refine .discard_bind (.check_bind fun verdict permitted => ?_)
  have performs (unoffered : target = .opened → s.openListing? seen.instrument = none) :=
    Performs.transitionListing (g := g) stored other permitted unoffered
  refine .ite (fun opened => ?_) fun closed => ?_
  · have about := Store.mem_listingFootprint (Table.get?_eq_some.1 stored).1
    refine .requireUnoffered_bind about fun unoffered => ?_
    exact .now_bind (.save_pure (performs fun _ => unoffered).comes)
  · exact .now_bind (.save_pure (performs fun opened => absurd opened closed).comes)

theorem walks_placeBid (actor : Actor) (request : BidRequest)
    : (Command.placeBid actor request).Walks g s := by
  refine .map (.changing (.requireOpen_bind List.mem_cons_self fun listing stored isOpen => ?_))
  refine .ite (fun _ => .refuse _) fun foreign => ?_
  refine .check_bind fun amount checked => ?_
  have foreign : actor.actsFor listing.seller = false := by simpa using foreign
  have performs := Performs.placeBid (g := g) stored isOpen foreign checked
  exact .now_bind (.draw_bind (.save_pure performs.comes))

theorem walks_transitionBid (id : BidId) (target : BidStatus) (actor : Actor)
    : (Command.transitionBid id target actor).Walks g s := by
  refine .map (.requireBid_bind List.mem_cons_self fun seen stored => ?_)
  refine .ite (fun same => .pure (Performs.keepBid stored same).comes) fun other => ?_
  refine .changing (.requireBid_bind List.mem_cons_self fun b again => ?_)
  cases Option.some.inj (stored.symm.trans again)
  refine .ite (fun same => absurd same other) fun _ => ?_
  have about := Store.mem_bidFootprint (Table.get?_eq_some.1 stored).1
  refine .discard_bind (.requireOpen_bind about fun listing listed isOpen => ?_)
  refine .discard_bind (.check_bind fun verdict permitted => ?_)
  have performs := Performs.transitionBid (g := g) stored other listed isOpen permitted
  exact .now_bind (.save_pure performs.comes)

theorem walks_acceptBid (id : BidId) (actor : Actor)
    : (Command.acceptBid id actor).Walks g s := by
  refine .map (.requireBid_bind List.mem_cons_self fun seen stored => .changing ?_)
  have about {b : Bid} (stored : s.bids.get? id = some b) :=
    Store.mem_bidFootprint (Table.get?_eq_some.1 stored).1
  refine .requireResolvable_bind List.mem_cons_self (fun b => about) ?_
  intro b listing again pending listed isOpen seller
  cases Option.some.inj (stored.symm.trans again)
  refine .now_bind (.check_bind fun selected select => ?_)
  refine .query_bind (about stored) (.check_bind fun setAside others => ?_)
  have performs := Performs.acceptBid stored pending listed isOpen seller select others
  exact .save_pure performs.comes

theorem walks_rejectBid (id : BidId) (actor : Actor)
    : (Command.rejectBid id actor).Walks g s := by
  refine .map (.requireBid_bind List.mem_cons_self fun seen stored => .changing ?_)
  refine .requireResolvable_bind List.mem_cons_self
    (fun b stored => Store.mem_bidFootprint (Table.get?_eq_some.1 stored).1) ?_
  intro b listing again pending listed isOpen seller
  cases Option.some.inj (stored.symm.trans again)
  refine .now_bind (.check_bind fun b' reject => ?_)
  exact .save_pure (Performs.rejectBid stored pending listed isOpen seller reject).comes

theorem walks_placeAsk (actor : Actor) (request : AskRequest)
    : (Command.placeAsk actor request).Walks g s := by
  refine .map (.changing (.requireOpen_bind List.mem_cons_self fun listing stored isOpen => ?_))
  refine .ite (fun _ => .refuse _) fun seller => ?_
  refine .now_bind (.check_bind fun amount checked => .check_bind fun make made => ?_)
  have seller : actor.actsFor listing.seller = true := by simpa using seller
  have performs := Performs.placeAsk stored isOpen seller checked made
  exact .draw_bind (.save_pure performs.comes)

theorem walks_transitionAsk (id : AskId) (target : AskStatus) (actor : Actor)
    : (Command.transitionAsk id target actor).Walks g s := by
  refine .map (.requireAsk_bind List.mem_cons_self fun seen stored => ?_)
  refine .ite (fun same => .pure (Performs.keepAsk stored same).comes) fun other => ?_
  refine .changing (.requireAsk_bind List.mem_cons_self fun a again => ?_)
  cases Option.some.inj (stored.symm.trans again)
  refine .ite (fun same => absurd same other) fun _ => ?_
  have about := Store.mem_askFootprint (Table.get?_eq_some.1 stored).1
  refine .discard_bind (.requireOpen_bind about fun listing listed isOpen => ?_)
  refine .discard_bind (.check_bind fun verdict permitted => ?_)
  have performs := Performs.transitionAsk (g := g) stored other listed isOpen permitted
  exact .now_bind (.save_pure performs.comes)

theorem walks_updateAsk (id : AskId) (actor : Actor) (update : AskUpdate)
    : (Command.updateAsk id actor update).Walks g s := by
  refine .map (.requireAsk_bind List.mem_cons_self fun seen stored => .changing ?_)
  refine .requireAsk_bind List.mem_cons_self fun a again => ?_
  cases Option.some.inj (stored.symm.trans again)
  refine .ite (fun _ => .refuse _) fun active => ?_
  have about := Store.mem_askFootprint (Table.get?_eq_some.1 stored).1
  refine .discard_bind (.requireOpen_bind about fun listing listed isOpen => ?_)
  refine .ite (fun _ => .refuse _) fun asker => ?_
  refine .now_bind (.check_bind fun a' applied => ?_)
  have active : seen.isActive = true := by simpa using active
  have asker : actor.actsFor seen.asker = true := by simpa using asker
  exact .save_pure (Performs.updateAsk stored active listed isOpen asker applied).comes

end Operation

namespace Command

/-- Every request begins with a command that asks about its footprint only and succeeds in no
other than its ways: by cases on the request.
-/
theorem walks_opening (c : Command) (g : Given) (s : Store) : c.opening.Walks g s := by
  cases c with
  | createDraft actor terms => exact Operation.walks_createDraft _ _
  | updateDraft id actor update => exact Operation.walks_updateDraft _ _ _
  | transitionInstrument id target actor => exact Operation.walks_moveInstrument _ _ _
  | moveInstrument id target actor => exact Operation.walks_moveInstrument _ _ _
  | recordIssuance instrument owner => exact Operation.walks_recordIssuance _ _
  | transfer instrument fromOwner toOwner reason => exact Operation.walks_transfer _ _ _ _
  | createListing instrument actor => exact Operation.walks_createListing _ _
  | transitionListing id target actor => exact Operation.walks_transitionListing _ _ _
  | placeBid actor request => exact Operation.walks_placeBid _ _
  | transitionBid id target actor => exact Operation.walks_transitionBid _ _ _
  | acceptBid id actor => exact Operation.walks_acceptBid _ _
  | rejectBid id actor => exact Operation.walks_rejectBid _ _
  | placeAsk actor request => exact Operation.walks_placeAsk _ _
  | transitionAsk id target actor => exact Operation.walks_transitionAsk _ _ _
  | updateAsk id actor update => exact Operation.walks_updateAsk _ _ _

/-- The opening of a request that succeeds has succeeded in one of its ways, and one that the
store refuses was about to.
-/
theorem performed_opening (c : Command) (g : Given) (s : Store)
    : Operation.Achieves g s c.opening.operation (Performed g s c.opening)
        (Refused g s c.opening) := by
  obtain ⟨performed, refused⟩ := (c.walks_opening g s).achieves
  constructor
  · intro outcome ended
    obtain ⟨w, ⟨notice, performs, told⟩, wrote⟩ := performed outcome ended
    exact ⟨w, notice, performs, wrote, told⟩
  · intro e ended
    obtain ⟨outcome, w, notices, ⟨notice, performs, -⟩, written⟩ := refused e ended
    exact ⟨outcome, w, notice, performs, written⟩

/-- The opening of a request either fails and does nothing, or succeeds in one of its ways.
-/
theorem effect_opening (c : Command) (g : Given) (s : Store)
    : (∃ failure, c.opening.operation.effect g s = .idle (.error failure) s)
      ∨ ∃ outcome w notice s', Performs g s c.opening outcome w notice ∧ s.Wrote w s'
          ∧ c.opening.operation.effect g s = ⟨.ok outcome, s', notice.toList⟩ := by
  cases ended : (c.opening.operation.effect g s).result with
  | error failure => exact .inl ⟨failure, c.orderly_opening.effect_error ended⟩
  | ok outcome =>
      obtain ⟨w, notice, performs, wrote, told⟩ := (c.performed_opening g s).1 outcome ended
      refine .inr ⟨outcome, w, notice, _, performs, wrote, ?_⟩
      rw [← ended, ← told]

end Command

end DebtMarket
