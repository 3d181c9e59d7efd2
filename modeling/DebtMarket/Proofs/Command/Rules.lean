import DebtMarket.Proofs.Operation.Rules
import DebtMarket.Proofs.Ownership.Owner
import DebtMarket.Proofs.Policy
import DebtMarket.Proofs.Record
import DebtMarket.Proofs.Store.Rivals

/-! The rules of the commands. Every command that does not merely move a record is subject to a
list of rules, and they count in the order of the list: what is asked for has to be there, it
has to be in a status that allows the command, the actor has to be the right one, and only
then the amounts and dates of the request are looked at. A command is refused by the first
rule that is broken, and by the store or not at all if none is.
-/

namespace DebtMarket

namespace Rule

/-- A record has to be there. -/
def found {α : Type} (kind : EntityKind) (id : Uuid) (record : Option α) : Rule :=
  against (record = none) (.notFound kind id)

/-- A listing that is there has to be open. -/
def isOpen (s : Store) (id : ListingId) : Rule :=
  about (s.listings.get? id) fun x =>
    against (x.status ≠ .opened) (.listingNotOpen id x.status)

/-- No listing may offer the instrument yet. -/
def unoffered (s : Store) (instrument : InstrumentId) : Rule :=
  fun e => ∃ other, s.Offers other instrument ∧ e = .alreadyOpen instrument other

/-- The actor has to act for a company. -/
def actsFor (actor : Actor) (company : CompanyId) (entity : EntityKind) (id : Uuid)
    (reason : String)
    : Rule :=
  against (actor.company ≠ company) (.forbidden entity id reason)

/-- An amount has to be above zero. -/
def positive (d : Decimal) : Rule :=
  against (d.value ≤ 0) (.invalidAmount s!"amount must be positive, got {d}")

/-- A deadline has to lie in the future. -/
def ahead (now deadline : Instant) : Rule :=
  against (deadline ≤ now) (.invalidValidity deadline now)

/-- A maturity date has to lie after the present day. -/
def maturesLater (now : Instant) (date : Date) : Rule :=
  against (date.rank ≤ now.date.rank)
    (.invalidDate s!"maturity date {date} must be after {now.date}")

/-- The rules for the resolution of a bid. -/
def resolution (s : Store) (id : BidId) (actor : Actor) : List Rule :=
  let stored := s.bids.get? id
  [
    found .bid id.uuid stored,
    about stored fun b => against (b.status ≠ .pending) (.notPending id b.status),
    about stored fun b => found .listing b.listing.uuid (s.listings.get? b.listing),
    about stored fun b => isOpen s b.listing,
    about stored fun b =>
      about (s.listings.get? b.listing) fun x =>
        actsFor actor x.seller .bid id.uuid
          s!"only the seller of listing {x.id} may resolve its bids"
  ]

end Rule

namespace Command

/-- The rules that a command is subject to, in the order in which they count. -/
inductive SubjectTo (g : Given) (s : Store) : Command → List Rule → Prop
  | createDraft (actor : Actor) (terms : InstrumentTerms)
    : SubjectTo g s (.createDraft actor terms)
        [
          .positive terms.faceValue,
          .positive terms.maturityPayment,
          .maturesLater g.instant terms.maturityDate
        ]
  | updateDraft (id : InstrumentId) (actor : Actor) (update : DraftUpdate)
    : SubjectTo g s (.updateDraft id actor update)
        [
          .found .instrument id.uuid (s.instruments.get? id),
          .about (s.instruments.get? id) fun x =>
            .against (x.status ≠ .draft) (.notEditable id x.status),
          .about (s.instruments.get? id) fun x =>
            .actsFor actor x.issuer .instrument id.uuid "only the issuer may edit a draft",
          .about update.faceValue .positive,
          .about update.maturityPayment .positive,
          .about update.maturityDate (.maturesLater g.instant)
        ]
  | recordIssuance (instrument : InstrumentId) (owner : CompanyId)
    : SubjectTo g s (.recordIssuance instrument owner)
        [
          .about (s.owner? instrument) fun present =>
            .against True (.alreadyOwned instrument present)
        ]
  | transfer (instrument : InstrumentId) (fromOwner toOwner : CompanyId)
      (reason : AcquisitionReason)
    : SubjectTo g s (.transfer instrument fromOwner toOwner reason)
        [
          .against (reason = .issuance) (.invalidTransferReason reason),
          .against (s.owner? instrument ≠ some fromOwner) (.notOwner instrument fromOwner),
          .against (toOwner = fromOwner) (.alreadyOwned instrument toOwner)
        ]
  | createListing (instrument : InstrumentId) (actor : Actor)
    : SubjectTo g s (.createListing instrument actor)
        [
          .found .instrument instrument.uuid (s.instruments.get? instrument),
          .against (s.owner? instrument = none) (.noActiveOwner instrument),
          .about (s.owner? instrument) fun owner =>
            .against (actor.company ≠ owner) (.notOwner instrument actor.company),
          .unoffered s instrument
        ]
  | placeBid (actor : Actor) (request : BidRequest)
    : SubjectTo g s (.placeBid actor request)
        [
          .found .listing request.listing.uuid (s.listings.get? request.listing),
          .isOpen s request.listing,
          .about (s.listings.get? request.listing) fun x =>
            .against (actor.company = x.seller) (.selfBid request.listing actor.company),
          .positive request.amount
        ]
  | acceptBid (id : BidId) (actor : Actor)
    : SubjectTo g s (.acceptBid id actor) (Rule.resolution s id actor)
  | rejectBid (id : BidId) (actor : Actor)
    : SubjectTo g s (.rejectBid id actor) (Rule.resolution s id actor)
  | placeAsk (actor : Actor) (request : AskRequest)
    : SubjectTo g s (.placeAsk actor request)
        [
          .found .listing request.listing.uuid (s.listings.get? request.listing),
          .isOpen s request.listing,
          .about (s.listings.get? request.listing) fun x =>
            .actsFor actor x.seller .listing request.listing.uuid
              "only the seller may ask on a listing",
          .positive request.amount,
          .about request.validUntil (.ahead g.instant)
        ]
  | updateAsk (id : AskId) (actor : Actor) (update : AskUpdate)
    : SubjectTo g s (.updateAsk id actor update)
        [
          .found .ask id.uuid (s.asks.get? id),
          .about (s.asks.get? id) fun a =>
            .against (a.status ≠ .active) (.notActive id a.status),
          .about (s.asks.get? id) fun a =>
            .found .listing a.listing.uuid (s.listings.get? a.listing),
          .about (s.asks.get? id) fun a => .isOpen s a.listing,
          .about (s.asks.get? id) fun a =>
            .actsFor actor a.asker .ask id.uuid "only the asker may revise an ask",
          .about update.amount .positive,
          .about update.validUntil (.ahead g.instant)
        ]

end Command

-----------------------------------------------------------------------------------------
-- The checks of amounts and dates
-----------------------------------------------------------------------------------------

theorem Amount.make_heeds (d : Decimal) : Heeds (Amount.make d) [.positive d] := by
  intro e
  rw [make, Rule.positive]
  split
  · next positive =>
      have above : ¬d.value ≤ 0 := not_le.2 (Decimal.value_pos_iff.2 positive)
      rw [FirstBroken.cons_kept (Rule.against_kept above)]
      exact Heeds.ok _ e
  · next other =>
      have below : d.value ≤ 0 := not_lt.1 (mt Decimal.value_pos_iff.1 other)
      rw [FirstBroken.cons_broken (Rule.against_broken below), Except.error.injEq]

theorem Ask.checkDeadline_heeds (deadline now : Instant)
    : Heeds (Ask.checkDeadline deadline now) [.ahead now deadline] :=
  .ite ()

theorem Instrument.checkMaturity_heeds (date : Date) (now : Instant)
    : Heeds (Instrument.checkMaturity date now) [.maturesLater now date] :=
  .ite ()

theorem Instrument.draft_heeds (terms : InstrumentTerms) (issuer : CompanyId) (user : UserId)
    (now : Instant)
    : Heeds (Instrument.draft terms issuer user now)
        [
          .positive terms.faceValue,
          .positive terms.maturityPayment,
          .maturesLater now terms.maturityDate
        ] := by
  refine (Amount.make_heeds _).bind fun faceValue _ => ?_
  refine (Amount.make_heeds _).bind fun maturityPayment _ => ?_
  exact (checkMaturity_heeds _ _).bind fun _ _ => .ok _

/-- An update without any field gives no amount and no date. -/
theorem DraftUpdate.given_of_isEmpty {update : DraftUpdate} (empty : update.isEmpty = true)
    : update.faceValue = none ∧ update.maturityPayment = none ∧ update.maturityDate = none := by
  simp only [isEmpty, Bool.and_eq_true, Option.isNone_iff_eq_none] at empty
  obtain ⟨⟨⟨⟨⟨-, faceValue⟩, -⟩, maturityDate⟩, maturityPayment⟩, -⟩ := empty
  exact ⟨faceValue, maturityPayment, maturityDate⟩

theorem Instrument.applyUpdate_heeds {x : Instrument} (editable : x.isEditable = true)
    (update : DraftUpdate) (now : Instant)
    : Heeds (x.applyUpdate update now)
        [
          .about update.faceValue .positive,
          .about update.maturityPayment .positive,
          .about update.maturityDate (.maturesLater now)
        ] := by
  rw [applyUpdate_of_editable editable]
  refine (Heeds.mapM Amount.make_heeds).bind fun faceValue _ => ?_
  refine (Heeds.mapM Amount.make_heeds).bind fun maturityPayment _ => ?_
  exact (Heeds.forM fun date => checkMaturity_heeds date now).bind fun _ _ => .ok _

theorem Ask.place_heeds (listing : ListingId) (actor : Actor) (terms : AskTerms) (now : Instant)
    : Heeds (Ask.place listing actor terms now) [.about terms.validUntil (.ahead now)] :=
  (Heeds.forM fun deadline => checkDeadline_heeds deadline now).bind fun _ _ => .ok _

theorem Ask.applyUpdate_heeds {a : Ask} (active : a.isActive = true) (update : AskUpdate)
    (now : Instant)
    : Heeds (a.applyUpdate update now)
        [.about update.amount .positive, .about update.validUntil (.ahead now)] := by
  rw [applyUpdate_of_active active]
  refine (Heeds.mapM Amount.make_heeds).bind fun amount _ => ?_
  exact (Heeds.forM fun deadline => checkDeadline_heeds deadline now).bind fun _ _ => .ok _

-----------------------------------------------------------------------------------------
-- The first steps of operations
-----------------------------------------------------------------------------------------

namespace Operation

namespace Obeys

variable {α : Type} {g : Given} {s : Store} {rest : List Rule}

theorem requireInstrument_bind {id : InstrumentId} {k : Instrument → Operation α}
    (h : ∀ x, s.instruments.get? id = some x → (k x).Obeys g s rest)
    : (requireInstrument id >>= k).Obeys g s
        (.found .instrument id.uuid (s.instruments.get? id) :: rest) := by
  rw [requireInstrument_eq, bind_assoc]
  exact found_bind h

theorem requireListing_bind {id : ListingId} {k : Listing → Operation α}
    (h : ∀ x, s.listings.get? id = some x → (k x).Obeys g s rest)
    : (requireListing id >>= k).Obeys g s
        (.found .listing id.uuid (s.listings.get? id) :: rest) := by
  rw [requireListing_eq, bind_assoc]
  exact found_bind h

theorem requireBid_bind {id : BidId} {k : Bid → Operation α}
    (h : ∀ b, s.bids.get? id = some b → (k b).Obeys g s rest)
    : (requireBid id >>= k).Obeys g s (.found .bid id.uuid (s.bids.get? id) :: rest) := by
  rw [requireBid_eq, bind_assoc]
  exact found_bind h

theorem requireAsk_bind {id : AskId} {k : Ask → Operation α}
    (h : ∀ a, s.asks.get? id = some a → (k a).Obeys g s rest)
    : (requireAsk id >>= k).Obeys g s (.found .ask id.uuid (s.asks.get? id) :: rest) := by
  rw [requireAsk_eq, bind_assoc]
  exact found_bind h

/-- A bid that was found already is found again. -/
theorem requireBid_again {id : BidId} {b : Bid} (stored : s.bids.get? id = some b)
    {k : Bid → Operation α} (h : (k b).Obeys g s rest)
    : (requireBid id >>= k).Obeys g s rest := by
  intro e
  rw [requireBid_eq, bind_assoc, effect_query_bind, Store.answer, stored]
  exact h e

/-- An ask that was found already is found again. -/
theorem requireAsk_again {id : AskId} {a : Ask} (stored : s.asks.get? id = some a)
    {k : Ask → Operation α} (h : (k a).Obeys g s rest)
    : (requireAsk id >>= k).Obeys g s rest := by
  intro e
  rw [requireAsk_eq, bind_assoc, effect_query_bind, Store.answer, stored]
  exact h e

theorem requireOpen_bind {id : ListingId} {k : Listing → Operation α}
    (h : ∀ x, s.listings.get? id = some x → (k x).Obeys g s rest)
    : (requireOpen id >>= k).Obeys g s
        (.found .listing id.uuid (s.listings.get? id) :: .isOpen s id :: rest) := by
  rw [requireOpen, bind_assoc]
  refine requireListing_bind fun x stored => ?_
  rw [Rule.isOpen, stored, Rule.about_some]
  exact guard_bind Listing.isOpen_iff rfl fun _ => h x stored

/-- No listing offers the instrument, as the store finds the only one that does. -/
theorem requireUnoffered_bind (sound : s.Sound) (unrivalled : s.Unrivalled)
    {instrument : InstrumentId} {k : Unit → Operation α} (h : (k ()).Obeys g s rest)
    : (requireUnoffered instrument >>= k).Obeys g s (.unoffered s instrument :: rest) := by
  rw [requireUnoffered, bind_assoc]
  refine query_bind ?_
  rw [Store.answer]
  cases offered : s.openListing? instrument with
  | none =>
      refine pass ?_ h
      rintro e ⟨other, offers, -⟩
      exact (Store.openListing?_eq_none_iff sound).1 offered other offers
  | some x =>
      have objects (e : MarketError)
          : Rule.unoffered s instrument e ↔ e = .alreadyOpen instrument x.id := by
        simp only [Rule.unoffered, ← Store.openListing?_eq_some_iff sound unrivalled, offered,
          Option.some.injEq, exists_eq_left']
      exact refuse objects

theorem requireOwner_bind {instrument : InstrumentId} {owner : CompanyId}
    {k : Ownership → Operation α}
    (h : ∀ row, s.ledger.active? instrument = some row → row.owner = owner
      → (k row).Obeys g s rest)
    : (requireOwner instrument owner >>= k).Obeys g s
        (.against (s.owner? instrument ≠ some owner) (.notOwner instrument owner) :: rest) := by
  rw [requireOwner, bind_assoc]
  refine query_bind ?_
  rw [Store.answer, Store.owner?]
  cases active : s.ledger.active? instrument with
  | none => exact refuse (Rule.against_broken (by simp))
  | some row =>
      have means : (row.owner == owner) = true ↔ (some row).map Ownership.owner = some owner := by
        simp
      exact guard_bind means rfl fun same => h row active (beq_iff_eq.1 same)

/-- A bid that was found is checked as it has to be resolved. -/
theorem requireResolvable_bind {id : BidId} {b : Bid} {actor : Actor}
    (stored : s.bids.get? id = some b) {k : Bid → Operation α}
    (h : b.isPending = true → (k b).Obeys g s [])
    : (requireResolvable id actor >>= k).Obeys g s (Rule.resolution s id actor).tail := by
  simp only [Rule.resolution, stored, Rule.about_some, List.tail_cons]
  rw [requireResolvable, bind_assoc]
  refine requireBid_again stored ?_
  refine guard_bind Bid.isPending_iff rfl fun pending => ?_
  rw [bind_assoc]
  refine requireOpen_bind fun x listed => ?_
  rw [listed, Rule.about_some]
  exact guard_bind Actor.actsFor_iff rfl fun _ => h pending

end Obeys

-----------------------------------------------------------------------------------------
-- The rules of every operation
-----------------------------------------------------------------------------------------

variable {g : Given} {s : Store}

/-- An operation obeys the rules that its command is subject to, by cases on the command. -/
theorem obeys_of_subjectTo (sound : s.Sound) (unrivalled : s.Unrivalled) {c : Command}
    {rules : List Rule} (h : c.SubjectTo g s rules)
    : c.operation.Obeys g s rules := by
  cases h with
  | createDraft actor terms =>
      refine .map (.now_bind ?_) _
      refine .check_bind (Instrument.draft_heeds _ _ _ _) fun make _ => ?_
      exact .draw_bind .save_announce
  | updateDraft id actor update =>
      refine .map (.changing (.requireInstrument_bind fun x stored => ?_)) _
      simp only [stored, Rule.about_some]
      refine .guard Instrument.isEditable_iff rfl fun editable => ?_
      refine .guard Actor.actsFor_iff rfl fun _ => ?_
      split
      · next empty =>
          -- What is not given cannot break a rule.
          obtain ⟨faceValue, maturityPayment, maturityDate⟩ := DraftUpdate.given_of_isEmpty empty
          rw [faceValue, maturityPayment, maturityDate]
          refine .pass (Rule.about_none _) (.pass (Rule.about_none _) ?_)
          exact .pass (Rule.about_none _) (.pure _)
      · refine .now_bind (.check_bind (Instrument.applyUpdate_heeds editable _ _) ?_)
        exact fun _ _ => .save_pure
  | recordIssuance instrument owner =>
      refine .map (.changing (.query_bind ?_)) _
      rw [Store.answer, Store.owner?]
      cases active : s.ledger.active? instrument with
      | none => exact .pass (Rule.about_none _) (.now_bind (.draw_bind .save_pure))
      | some row =>
          rw [Option.map_some, Rule.about_some]
          exact .refuse (Rule.against_broken trivial)
  | transfer instrument fromOwner toOwner reason =>
      refine .map (.ite Iff.rfl rfl fun _ => .changing ?_) _
      refine .requireOwner_bind fun active owned giver => ?_
      refine .ite (by rw [giver]) rfl fun _ => .now_bind ?_
      have current := Ownership.isActive_iff.1 (Ledger.active?_isActive owned)
      rw [Ownership.relinquish_eq_ok.2 ⟨current, rfl⟩]
      exact .check_bind (.ok _) fun _ _ => .draw_bind .save_pure
  | createListing instrument actor =>
      refine .map (.discard_bind (.requireInstrument_bind fun _ _ => ?_)) _
      refine .changing (.query_bind ?_)
      rw [Store.answer, Store.owner?]
      cases active : s.ledger.active? instrument with
      | none => exact .refuse (Rule.against_broken rfl)
      | some row =>
          refine .pass (Rule.against_kept (by simp)) ?_
          rw [Option.map_some, Rule.about_some]
          refine .guard Actor.actsFor_iff rfl fun _ => ?_
          refine .requireUnoffered_bind sound unrivalled ?_
          exact .now_bind (.draw_bind .save_pure)
  | placeBid actor request =>
      refine .map (.changing (.requireOpen_bind fun x stored => ?_)) _
      rw [stored, Rule.about_some]
      refine .ite Actor.actsFor_iff rfl fun _ => ?_
      refine .check_bind (Amount.make_heeds _) fun amount _ => ?_
      exact .now_bind (.draw_bind .save_pure)
  | acceptBid id actor =>
      refine .map (.requireBid_bind fun b stored => .changing ?_) _
      refine .requireResolvable_bind stored fun pending => .now_bind ?_
      rw [Bid.select, Bid.resolve_of_pending pending]
      refine .check_bind (.ok _) fun _ _ => .query_bind ?_
      dsimp only
      rw [Bid.setAside_of_pending fun x member =>
        (Bool.and_eq_true_iff.1 (List.mem_filter.1 member).2).2]
      exact .check_bind (.ok _) fun _ _ => .save_pure
  | rejectBid id actor =>
      refine .map (.requireBid_bind fun b stored => .changing ?_) _
      refine .requireResolvable_bind stored fun pending => .now_bind ?_
      rw [Bid.setAside, Bid.resolve_of_pending pending]
      exact .check_bind (.ok _) fun _ _ => .save_pure
  | placeAsk actor request =>
      refine .map (.changing (.requireOpen_bind fun x stored => ?_)) _
      rw [stored, Rule.about_some]
      refine .guard Actor.actsFor_iff rfl fun _ => .now_bind ?_
      refine .check_bind (Amount.make_heeds _) fun amount _ => ?_
      refine .check_bind (Ask.place_heeds _ _ _ _) fun make _ => ?_
      exact .draw_bind .save_pure
  | updateAsk id actor update =>
      refine .map (.requireAsk_bind fun a stored => .changing ?_) _
      refine .requireAsk_again stored ?_
      simp only [stored, Rule.about_some]
      refine .guard Ask.isActive_iff rfl fun active => ?_
      refine .discard_bind (.requireOpen_bind fun _ _ => ?_)
      refine .guard Actor.actsFor_iff rfl fun _ => .now_bind ?_
      exact .check_bind (Ask.applyUpdate_heeds active _ _) fun _ _ => .save_pure

end Operation

end DebtMarket
