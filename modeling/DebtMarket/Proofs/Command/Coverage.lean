import DebtMarket.Command
import DebtMarket.Proofs.Operation.Guarded
import DebtMarket.Proofs.Record

/-! Every command is guarded: its write is covered by its locks, and what it has read is
protected by them, read again under them, or decides it at once. A bid or an ask is written
only after its listing was found open under the lock of the listing.
-/

namespace DebtMarket.Operation

variable {α : Type} {locked : List Scope} {s : Store}

-----------------------------------------------------------------------------------------
-- Records that are found
-----------------------------------------------------------------------------------------

/-- A record may be read if, whatever others do afterwards, one like it is found; it decides
the operation at once, or the operation goes on in the same way from every record like it.
-/
theorem Guarded.found_bind {β : Type} {q : Query} (found : q.Answer → Option β)
    (like : β → β → Prop) {e : MarketError} {k : β → Operation α}
    (stays : ∀ s₁ x, s.Keeps locked s₁ → found (s₁.answer q) = some x
      → ∀ s₂, s₁.Keeps locked s₂ → ∃ x₂, found (s₂.answer q) = some x₂ ∧ like x₂ x)
    (again : ∀ x, (∃ result, (k x).verdict = some result)
      ∨ ∀ s₁ x₁, found (s₁.answer q) = some x₁ → like x₁ x
        → ∀ g, (k x₁).effect g s₁ = (k x).effect g s₁)
    (rest : ∀ s₁ x, s.Keeps locked s₁ → found (s₁.answer q) = some x
      → Guarded locked s₁ (k x))
    : Guarded locked s
        (Operation.query q >>= fun reply => orRefuse (found reply) e >>= k) := by
  refine .query (fun s₁ keeps => ?_) fun s₁ keeps => ?_
  · simp only [Lasting, Operation.bind]
    cases stored : found (s₁.answer q) with
    | none => exact .inl ⟨_, rfl⟩
    | some x =>
        rcases again x with decided | same
        · exact .inl decided
        · refine .inr fun s₂ keeps₂ g => ?_
          obtain ⟨x₂, stored₂, like₂⟩ := stays s₁ x keeps stored s₂ keeps₂
          rw [stored₂]
          exact same s₂ x₂ stored₂ like₂ g
  · simp only [Operation.bind]
    cases stored : found (s₁.answer q) with
    | none => exact .refuse _
    | some x => exact rest s₁ x keeps stored

/-- A record that is protected by the locks is the same whatever others do. -/
theorem Guarded.locked_bind {β : Type} {q : Query} (found : q.Answer → Option β)
    {e : MarketError} {k : β → Operation α}
    (pins : ∀ s₁ x, s.Keeps locked s₁ → found (s₁.answer q) = some x
      → ∀ s₂, s₁.Keeps locked s₂ → found (s₂.answer q) = some x)
    (rest : ∀ s₁ x, s.Keeps locked s₁ → found (s₁.answer q) = some x
      → Guarded locked s₁ (k x))
    : Guarded locked s
        (Operation.query q >>= fun reply => orRefuse (found reply) e >>= k) := by
  refine .found_bind found Eq (fun s₁ x keeps stored s₂ keeps₂ => ?_) (fun x => ?_) rest
  · exact ⟨x, pins s₁ x keeps stored s₂ keeps₂, rfl⟩
  · refine .inr fun s₁ x₁ _ same g => ?_
    rw [same]

theorem Guarded.requireInstrument_bind {id : InstrumentId} {k : Instrument → Operation α}
    (lock : .instrument id ∈ locked)
    (rest : ∀ s₁ x, s.Keeps locked s₁ → s₁.instruments.get? id = some x
      → Guarded locked s₁ (k x))
    : Guarded locked s (requireInstrument id >>= k) := by
  rw [requireInstrument_eq, bind_assoc]
  refine Guarded.locked_bind (q := .instrument id) (fun reply => reply)
    (fun s₁ x _ stored s₂ keeps₂ => ?_) rest
  refine keeps₂.instruments.pins id x stored ?_
  rw [show x.id = id from Table.get?_id stored]
  exact lock

theorem Guarded.requireListing_bind {id : ListingId} {k : Listing → Operation α}
    (lock : .listing id ∈ locked)
    (rest : ∀ s₁ x, s.Keeps locked s₁ → s₁.listings.get? id = some x
      → Guarded locked s₁ (k x))
    : Guarded locked s (requireListing id >>= k) := by
  rw [requireListing_eq, bind_assoc]
  refine Guarded.locked_bind (q := .listing id) (fun reply => reply)
    (fun s₁ x _ stored s₂ keeps₂ => ?_) rest
  refine keeps₂.listings.pins id x stored ?_
  rw [show x.id = id from Table.get?_id stored]
  exact lock

theorem Guarded.requireOpen_bind {id : ListingId} {k : Listing → Operation α}
    (lock : .listing id ∈ locked)
    (rest : ∀ s₁ x, s.Keeps locked s₁ → s₁.Opened id → Guarded locked s₁ (k x))
    : Guarded locked s (requireOpen id >>= k) := by
  rw [requireOpen, bind_assoc]
  refine .requireListing_bind lock fun s₁ x keeps stored => ?_
  refine .ite_bind (fun _ => .refuse _) fun isOpen => rest s₁ x keeps ⟨x, stored, ?_⟩
  simpa using isOpen

/-- A bid is protected by the lock of its listing. -/
theorem Guarded.requireBid_bind {id : BidId} {listing : ListingId} {k : Bid → Operation α}
    (lock : .listing listing ∈ locked)
    (placed : ∃ b, s.bids.get? id = some b ∧ b.listing = listing)
    (rest : ∀ s₁ b, s.Keeps locked s₁ → s₁.bids.get? id = some b → b.listing = listing
      → Guarded locked s₁ (k b))
    : Guarded locked s (requireBid id >>= k) := by
  obtain ⟨b₀, stored₀, same₀⟩ := placed
  have stays {s₁ b} (keeps : s.Keeps locked s₁) (stored : s₁.bids.get? id = some b)
      : b.listing = listing := by
    obtain ⟨b₁, stored₁, same₁⟩ := keeps.bids.stays id b₀ stored₀
    cases stored.symm.trans stored₁
    exact same₁.trans same₀
  rw [requireBid_eq, bind_assoc]
  refine Guarded.locked_bind (q := .bid id) (fun reply => reply)
    (fun s₁ b keeps stored s₂ keeps₂ => ?_)
    fun s₁ b keeps stored => rest s₁ b keeps stored (stays keeps stored)
  exact keeps₂.bids.pins id b stored (stays keeps stored ▸ lock)

/-- An ask is protected by the lock of its listing. -/
theorem Guarded.requireAsk_bind {id : AskId} {listing : ListingId} {k : Ask → Operation α}
    (lock : .listing listing ∈ locked)
    (placed : ∃ a, s.asks.get? id = some a ∧ a.listing = listing)
    (rest : ∀ s₁ a, s.Keeps locked s₁ → s₁.asks.get? id = some a → a.listing = listing
      → Guarded locked s₁ (k a))
    : Guarded locked s (requireAsk id >>= k) := by
  obtain ⟨a₀, stored₀, same₀⟩ := placed
  have stays {s₁ a} (keeps : s.Keeps locked s₁) (stored : s₁.asks.get? id = some a)
      : a.listing = listing := by
    obtain ⟨a₁, stored₁, same₁⟩ := keeps.asks.stays id a₀ stored₀
    cases stored.symm.trans stored₁
    exact same₁.trans same₀
  rw [requireAsk_eq, bind_assoc]
  refine Guarded.locked_bind (q := .ask id) (fun reply => reply)
    (fun s₁ a keeps stored s₂ keeps₂ => ?_)
    fun s₁ a keeps stored => rest s₁ a keeps stored (stays keeps stored)
  exact keeps₂.asks.pins id a stored (stays keeps stored ▸ lock)

/-- Which listing offers an instrument is protected by the lock of the instrument. -/
theorem Guarded.requireUnoffered_bind {instrument : InstrumentId}
    {k : Unit → Operation α} (lock : .instrument instrument ∈ locked)
    (rest : ∀ s₁, s.Keeps locked s₁ → Guarded locked s₁ (k ()))
    : Guarded locked s (requireUnoffered instrument >>= k) := by
  rw [requireUnoffered, bind_assoc]
  refine .pinned_bind (fun s₁ s₂ _ keeps₂ => ?_) fun s₁ keeps => ?_
  · exact keeps₂.offered instrument lock
  · simp only [Store.answer]
    cases s₁.openListing? instrument with
    | none => exact rest s₁ keeps
    | some other => exact .refuse _

/-- Who owns an instrument is protected by the lock of the instrument. -/
theorem Guarded.activeRow_bind {instrument : InstrumentId}
    {k : Option Ownership → Operation α} (lock : .instrument instrument ∈ locked)
    (rest : ∀ s₁, s.Keeps locked s₁
      → Guarded locked s₁ (k (s₁.ledger.active? instrument)))
    : Guarded locked s (Operation.query (.activeRow instrument) >>= k) :=
  .pinned_bind (fun _ _ _ keeps₂ => keeps₂.active? lock) rest

/-- The bids on a listing are protected by its lock. -/
theorem Guarded.bidsFor_bind {listing : ListingId} {k : List Bid → Operation α}
    (lock : .listing listing ∈ locked)
    (rest : ∀ s₁, s.Keeps locked s₁ → Guarded locked s₁ (k (s₁.bidsFor listing)))
    : Guarded locked s (Operation.query (.bidsFor listing) >>= k) :=
  .pinned_bind (fun _ _ _ keeps₂ => keeps₂.offers listing lock) rest

-----------------------------------------------------------------------------------------
-- Records that are read before a lock
-----------------------------------------------------------------------------------------

/-- An instrument that was found is still there later on. -/
theorem Guarded.requireInstrument_first {id : InstrumentId} {k : Instrument → Operation α}
    (again : ∀ x, (∃ result, (k x).verdict = some result)
      ∨ ∀ s₁ x₁, s₁.instruments.get? id = some x₁
        → ∀ g, (k x₁).effect g s₁ = (k x).effect g s₁)
    (rest : ∀ s₁ x, s.Keeps locked s₁ → s₁.instruments.get? id = some x
      → Guarded locked s₁ (k x))
    : Guarded locked s (requireInstrument id >>= k) := by
  rw [requireInstrument_eq, bind_assoc]
  refine Guarded.found_bind (q := .instrument id) (fun reply => reply) (fun _ _ => True)
    (fun _ x _ stored _ keeps₂ => ?_) (fun x => ?_) rest
  · obtain ⟨x₂, stored₂, -⟩ := keeps₂.instruments.stays id x stored
    exact ⟨x₂, stored₂, trivial⟩
  · exact (again x).imp_right fun same s₁ x₁ stored _ => same s₁ x₁ stored

/-- A listing that was found is still one of the same instrument later on. -/
theorem Guarded.requireListing_first {id : ListingId} {k : Listing → Operation α}
    (again : ∀ x, (∃ result, (k x).verdict = some result)
      ∨ ∀ s₁ x₁, s₁.listings.get? id = some x₁ → x₁.instrument = x.instrument
        → ∀ g, (k x₁).effect g s₁ = (k x).effect g s₁)
    (rest : ∀ s₁ x, s.Keeps locked s₁ → s₁.listings.get? id = some x
      → Guarded locked s₁ (k x))
    : Guarded locked s (requireListing id >>= k) := by
  rw [requireListing_eq, bind_assoc]
  exact Guarded.found_bind (q := .listing id) (fun reply => reply)
    (fun other x => other.instrument = x.instrument)
    (fun _ x _ stored _ keeps₂ => keeps₂.listings.stays id x stored) again rest

/-- A bid that was found is still one on the same listing later on. -/
theorem Guarded.requireBid_first {id : BidId} {k : Bid → Operation α}
    (again : ∀ b, (∃ result, (k b).verdict = some result)
      ∨ ∀ s₁ b₁, s₁.bids.get? id = some b₁ → b₁.listing = b.listing
        → ∀ g, (k b₁).effect g s₁ = (k b).effect g s₁)
    (rest : ∀ s₁ b, s.Keeps locked s₁ → s₁.bids.get? id = some b
      → Guarded locked s₁ (k b))
    : Guarded locked s (requireBid id >>= k) := by
  rw [requireBid_eq, bind_assoc]
  exact Guarded.found_bind (q := .bid id) (fun reply => reply)
    (fun other b => other.listing = b.listing)
    (fun _ b _ stored _ keeps₂ => keeps₂.bids.stays id b stored) again rest

/-- An ask that was found is still one on the same listing later on. -/
theorem Guarded.requireAsk_first {id : AskId} {k : Ask → Operation α}
    (again : ∀ a, (∃ result, (k a).verdict = some result)
      ∨ ∀ s₁ a₁, s₁.asks.get? id = some a₁ → a₁.listing = a.listing
        → ∀ g, (k a₁).effect g s₁ = (k a).effect g s₁)
    (rest : ∀ s₁ a, s.Keeps locked s₁ → s₁.asks.get? id = some a
      → Guarded locked s₁ (k a))
    : Guarded locked s (requireAsk id >>= k) := by
  rw [requireAsk_eq, bind_assoc]
  exact Guarded.found_bind (q := .ask id) (fun reply => reply)
    (fun other a => other.listing = a.listing)
    (fun _ a _ stored _ keeps₂ => keeps₂.asks.stays id a stored) again rest

-----------------------------------------------------------------------------------------
-- Every operation is guarded
-----------------------------------------------------------------------------------------

theorem guarded_createDraft (actor : Actor) (terms : InstrumentTerms)
    : Guarded [] s (createDraft actor terms) := by
  refine .now_bind fun now => .check_bind fun make made => .draw_bind fun id => ?_
  exact .save_bind (Store.covers_instrument (.first (Instrument.draft_new made id).2))

theorem guarded_updateDraft (id : InstrumentId) (actor : Actor) (update : DraftUpdate)
    : Guarded [] s (updateDraft id actor update) := by
  refine .changing fun s₁ _ => ?_
  refine .requireInstrument_bind (by simp) fun s₂ x _ stored => ?_
  refine .ite (fun _ => .refuse _) fun _ => .ite (fun _ => .refuse _) fun _ => ?_
  refine .ite (fun _ => .pure _) fun _ => .now_bind fun now => ?_
  refine .check_bind fun x' applied => .save_bind (Store.covers_instrument ?_)
  obtain ⟨sameId, touched⟩ := Instrument.applyUpdate_touch applied
  cases Table.get?_id stored
  exact .next stored touched sameId sameId List.mem_cons_self

theorem guarded_moveInstrument (id : InstrumentId) (target : InstrumentStatus)
    (actor : Actor)
    : Guarded [] s (moveInstrument id target actor) := by
  refine .changing fun s₁ _ => ?_
  refine .requireInstrument_bind (by simp) fun s₂ x _ stored => ?_
  refine .ite (fun _ => .pure _) fun _ => .discard_bind (.check_bind fun _ _ => ?_)
  refine .now_bind fun now => .save_bind (Store.covers_instrument ?_)
  cases Table.get?_id stored
  exact .next stored rfl rfl rfl List.mem_cons_self

theorem guarded_recordIssuance (instrument : InstrumentId) (owner : CompanyId)
    : Guarded [] s (recordIssuance instrument owner) := by
  refine .changing fun s₁ _ => .activeRow_bind (by simp) fun s₂ _ => ?_
  cases s₂.ledger.active? instrument with
  | some active => exact .refuse _
  | none =>
      refine .now_bind fun now => .draw_bind fun row => ?_
      exact .save_bind (Store.covers_row List.mem_cons_self)

theorem guarded_transfer (instrument : InstrumentId) (fromOwner toOwner : CompanyId)
    (reason : AcquisitionReason)
    : Guarded [] s (transfer instrument fromOwner toOwner reason) := by
  refine .ite (fun _ => .refuse _) fun _ => .changing fun s₁ _ => ?_
  rw [requireOwner, bind_assoc]
  refine .activeRow_bind (by simp) fun s₂ _ => ?_
  cases s₂.ledger.active? instrument with
  | none => exact .refuse _
  | some row =>
      refine .ite_bind (fun _ => .refuse _) fun _ => .ite (fun _ => .refuse _) fun _ => ?_
      refine .now_bind fun now => .check_bind fun closing _ => .draw_bind fun id => ?_
      exact .save_bind (Store.covers_transfer List.mem_cons_self)

theorem guarded_createListing (instrument : InstrumentId) (actor : Actor)
    : Guarded [] s (createListing instrument actor) := by
  refine .discard_bind (.requireInstrument_first (fun x => ?_) fun s₁ x _ _ => ?_)
  · exact .inr fun _ _ _ _ => rfl
  · refine .changing fun s₂ _ => .activeRow_bind (by simp) fun s₃ _ => ?_
    cases s₃.ledger.active? instrument with
    | none => exact .refuse _
    | some row =>
        refine .ite (fun _ => .refuse _) fun _ => ?_
        refine .requireUnoffered_bind (by simp) fun s₄ _ => ?_
        refine .now_bind fun now => .draw_bind fun id => ?_
        exact .save_bind (Store.covers_listing List.mem_cons_self (.first rfl))

/-- A listing that has reached the status meanwhile is answered as one that had it at first.
-/
theorem guarded_transitionListing (id : ListingId) (target : ListingStatus)
    (actor : Actor)
    : Guarded [] s (transitionListing id target actor) := by
  refine .requireListing_first (fun seen => ?_) fun s₁ seen _ stored => ?_
  · by_cases same : seen.status = target
    · exact .inl ⟨.ok seen, by rw [if_pos same]; rfl⟩
    · refine .inr fun s₁ x stored instrument g => ?_
      by_cases reached : x.status = target
      · rw [if_pos reached, if_neg same, effect_changing, effect_locking, requireListing,
          bind_assoc, effect_query_bind]
        simp [Store.answer, stored, reached, Change.silent, Effect.andThen, Effect.idle]
      · rw [if_neg reached, if_neg same, instrument]
  · refine .ite (fun _ => .pure _) fun _ => .changing fun s₂ keeps₂ => ?_
    refine .locking fun s₃ keeps₃ => ?_
    refine .requireListing_bind (by simp) fun s₄ x keeps₄ stored₄ => ?_
    have instrument : x.instrument = seen.instrument := by
      have since := (keeps₂.trans (keeps₃.mono (by simp))).trans (keeps₄.mono (by simp))
      obtain ⟨y, storedY, same⟩ := since.listings.stays id seen stored
      cases Option.some.inj (stored₄.symm.trans storedY)
      exact same
    have lock : Scope.instrument x.instrument ∈ [.listing id, .instrument seen.instrument] := by
      simp [instrument]
    refine .ite (fun _ => .pure _) fun _ => .discard_bind (.check_bind fun _ _ => ?_)
    have covered {s₅} (keeps₅ : s₄.Keeps [.listing id, .instrument seen.instrument] s₅)
        (now : Instant)
        : s₅.Covers [.listing id, .instrument seen.instrument]
            (.listing (x.moveTo target now)) := by
      have pin : Scope.listing x.id ∈ [.listing id, .instrument seen.instrument] := by
        rw [show x.id = id from Table.get?_id stored₄]
        exact List.mem_cons_self
      have kept := keeps₅.listings.pins id x stored₄ pin
      refine Store.covers_listing lock (.next (b := x) ?_ rfl rfl rfl pin)
      rw [show Stored.id x = id from Table.get?_id stored₄]
      exact kept
    refine .ite (fun _ => ?_) fun _ => ?_
    · refine .requireUnoffered_bind lock fun s₅ keeps₅ => ?_
      exact .now_bind fun now => .save_bind (covered keeps₅ now)
    · exact .now_bind fun now => .save_bind (covered (.refl keeps₄.sound) now)

theorem guarded_placeBid (actor : Actor) (request : BidRequest)
    : Guarded [] s (placeBid actor request) := by
  refine .changing fun s₁ _ => .requireOpen_bind (by simp) fun s₂ listing _ opened => ?_
  refine .ite (fun _ => .refuse _) fun _ => .check_bind fun amount _ => ?_
  refine .now_bind fun now => .draw_bind fun id => ?_
  exact .save_bind (Store.covers_bid List.mem_cons_self opened (.first rfl))

/-- A bid that has reached the status meanwhile is answered as one that had it at first. -/
theorem guarded_transitionBid (id : BidId) (target : BidStatus) (actor : Actor)
    : Guarded [] s (transitionBid id target actor) := by
  refine .requireBid_first (fun seen => ?_) fun s₁ seen _ stored => ?_
  · by_cases same : seen.status = target
    · exact .inl ⟨.ok seen, by rw [if_pos same]; rfl⟩
    · refine .inr fun s₁ b stored listing g => ?_
      by_cases reached : b.status = target
      · rw [if_pos reached, if_neg same, effect_changing, requireBid, bind_assoc,
          effect_query_bind]
        simp [Store.answer, stored, reached, Change.silent, Effect.andThen, Effect.idle]
      · rw [if_neg reached, if_neg same, listing]
  · refine .ite (fun _ => .pure _) fun _ => .changing fun s₂ keeps₂ => ?_
    refine .requireBid_bind (by simp) (keeps₂.bids.stays id seen stored)
      fun s₃ b _ stored₃ listing => ?_
    refine .ite (fun _ => .pure _) fun _ => .discard_bind ?_
    refine .requireOpen_bind (by simp) fun s₄ _ keeps₄ opened => ?_
    refine .discard_bind (.check_bind fun _ _ => .now_bind fun now => ?_)
    have lock : Scope.listing b.listing ∈ [.listing seen.listing] := by simp [listing]
    cases Table.get?_id stored₃
    have kept := keeps₄.bids.pins _ b stored₃ lock
    rw [← listing] at opened
    exact .save_bind (Store.covers_bid lock opened (.next kept rfl rfl rfl lock))

/-- The bid that is to be resolved is read under the lock of its listing. -/
theorem Guarded.requireResolvable_bind {id : BidId} {actor : Actor} {listing : ListingId}
    {k : Bid → Operation α} (lock : .listing listing ∈ locked)
    (placed : ∃ b, s.bids.get? id = some b ∧ b.listing = listing)
    (rest : ∀ s₁ b, s.Keeps locked s₁ → s₁.bids.get? id = some b → b.listing = listing
      → s₁.Opened listing → Guarded locked s₁ (k b))
    : Guarded locked s (requireResolvable id actor >>= k) := by
  rw [requireResolvable, bind_assoc]
  refine .requireBid_bind lock placed fun s₁ b keeps₁ stored same => ?_
  refine .ite_bind (fun _ => .refuse _) fun _ => ?_
  have locks : Scope.listing b.listing ∈ locked := same ▸ lock
  rw [bind_assoc]
  refine .requireOpen_bind locks fun s₂ _ keeps₂ opened => ?_
  refine .ite_bind (fun _ => .refuse _) fun _ => ?_
  exact rest s₂ b (keeps₁.trans keeps₂) (keeps₂.bids.pins id b stored locks) same
    (same ▸ opened)

theorem guarded_acceptBid (id : BidId) (actor : Actor)
    : Guarded [] s (acceptBid id actor) := by
  refine .requireBid_first (fun seen => ?_) fun s₁ seen _ stored => ?_
  · exact .inr fun _ _ _ listing _ => by rw [listing]
  · refine .changing fun s₂ keeps₂ => ?_
    refine .requireResolvable_bind (by simp) (keeps₂.bids.stays id seen stored)
      fun s₃ b keeps₃ stored₃ listing opened => ?_
    have lock : Scope.listing seen.listing ∈ [.listing seen.listing] := by simp
    refine .now_bind fun now => .check_bind fun selected select => ?_
    refine .bidsFor_bind lock fun s₄ keeps₄ => .check_bind fun setAside others => ?_
    have locks {c : Bid} (same : c.listing = seen.listing)
        : Scope.listing c.listing ∈ [.listing seen.listing] := by simp [same]
    obtain ⟨-, rfl⟩ := Bid.resolve_eq_ok.1 select
    cases Table.get?_id stored₃
    have kept := keeps₄.bids.pins _ b stored₃ (locks listing)
    refine .save_bind (Store.covers_bids lock (opened.keeps keeps₄ lock) ?_ ?_)
    · refine List.forall_mem_cons.2 ⟨listing, fun c member => ?_⟩
      obtain ⟨other, candidate, -, rfl⟩ := Bid.mem_setAside others member
      exact ((Store.mem_bidsFor keeps₄.sound).1 (List.mem_filter.1 candidate).1).2
    · refine List.forall_mem_cons.2 ⟨?_, fun c member => ?_⟩
      · exact .next kept rfl rfl rfl (locks listing)
      · obtain ⟨other, candidate, -, rfl⟩ := Bid.mem_setAside others member
        obtain ⟨stored, same⟩ :=
          (Store.mem_bidsFor keeps₄.sound).1 (List.mem_filter.1 candidate).1
        exact .next stored rfl rfl rfl (locks same)

theorem guarded_rejectBid (id : BidId) (actor : Actor)
    : Guarded [] s (rejectBid id actor) := by
  refine .requireBid_first (fun seen => ?_) fun s₁ seen _ stored => ?_
  · exact .inr fun _ _ _ listing _ => by rw [listing]
  · refine .changing fun s₂ keeps₂ => ?_
    refine .requireResolvable_bind (by simp) (keeps₂.bids.stays id seen stored)
      fun s₃ b _ stored₃ listing opened => ?_
    refine .now_bind fun now => .check_bind fun b' reject => ?_
    obtain ⟨-, rfl⟩ := Bid.resolve_eq_ok.1 reject
    have lock : Scope.listing b.listing ∈ [.listing seen.listing] := by simp [listing]
    cases Table.get?_id stored₃
    rw [← listing] at opened
    exact .save_bind (Store.covers_bid lock opened (.next stored₃ rfl rfl rfl lock))

theorem guarded_placeAsk (actor : Actor) (request : AskRequest)
    : Guarded [] s (placeAsk actor request) := by
  refine .changing fun s₁ _ => .requireOpen_bind (by simp) fun s₂ listing _ opened => ?_
  refine .ite (fun _ => .refuse _) fun _ => .now_bind fun now => ?_
  refine .check_bind fun amount _ => .check_bind fun make made => .draw_bind fun id => ?_
  obtain ⟨-, placed, new⟩ := Ask.place_new made id
  rw [← placed] at opened
  exact .save_bind (Store.covers_ask (by simp [placed]) opened (.first new))

/-- An ask that has reached the status meanwhile is answered as one that had it at first. -/
theorem guarded_transitionAsk (id : AskId) (target : AskStatus) (actor : Actor)
    : Guarded [] s (transitionAsk id target actor) := by
  refine .requireAsk_first (fun seen => ?_) fun s₁ seen _ stored => ?_
  · by_cases same : seen.status = target
    · exact .inl ⟨.ok seen, by rw [if_pos same]; rfl⟩
    · refine .inr fun s₁ a stored listing g => ?_
      by_cases reached : a.status = target
      · rw [if_pos reached, if_neg same, effect_changing, requireAsk, bind_assoc,
          effect_query_bind]
        simp [Store.answer, stored, reached, Change.silent, Effect.andThen, Effect.idle]
      · rw [if_neg reached, if_neg same, listing]
  · refine .ite (fun _ => .pure _) fun _ => .changing fun s₂ keeps₂ => ?_
    refine .requireAsk_bind (by simp) (keeps₂.asks.stays id seen stored)
      fun s₃ a _ stored₃ listing => ?_
    refine .ite (fun _ => .pure _) fun _ => .discard_bind ?_
    refine .requireOpen_bind (by simp) fun s₄ _ keeps₄ opened => ?_
    refine .discard_bind (.check_bind fun _ _ => .now_bind fun now => ?_)
    have lock : Scope.listing a.listing ∈ [.listing seen.listing] := by simp [listing]
    cases Table.get?_id stored₃
    have kept := keeps₄.asks.pins _ a stored₃ lock
    rw [← listing] at opened
    exact .save_bind (Store.covers_ask lock opened (.next kept rfl rfl rfl lock))

theorem guarded_updateAsk (id : AskId) (actor : Actor) (update : AskUpdate)
    : Guarded [] s (updateAsk id actor update) := by
  refine .requireAsk_first (fun seen => ?_) fun s₁ seen _ stored => ?_
  · exact .inr fun _ _ _ listing _ => by rw [listing]
  · refine .changing fun s₂ keeps₂ => ?_
    refine .requireAsk_bind (by simp) (keeps₂.asks.stays id seen stored)
      fun s₃ a _ stored₃ listing => ?_
    refine .ite (fun _ => .refuse _) fun _ => .discard_bind ?_
    refine .requireOpen_bind (by simp) fun s₄ _ keeps₄ opened => ?_
    refine .ite (fun _ => .refuse _) fun _ => .now_bind fun now => ?_
    refine .check_bind fun a' applied => ?_
    obtain ⟨sameId, sameListing, touched⟩ := Ask.applyUpdate_touch applied
    have lock : Scope.listing a.listing ∈ [.listing seen.listing] := by simp [listing]
    cases Table.get?_id stored₃
    have kept := keeps₄.asks.pins _ a stored₃ lock
    have placed : a'.listing = seen.listing := sameListing.trans listing
    rw [← placed] at opened
    exact .save_bind (Store.covers_ask (by simp [placed]) opened
      (.next kept touched sameId sameListing lock))

end DebtMarket.Operation

namespace DebtMarket.Command

/-- Every request begins with a guarded operation, by cases on the request. -/
theorem guarded_opening (c : Command) (s : Store)
    : Operation.Guarded [] s c.opening.operation := by
  cases c with
  | createDraft actor terms => exact (Operation.guarded_createDraft _ _).map _
  | updateDraft id actor update => exact (Operation.guarded_updateDraft _ _ _).map _
  | transitionInstrument id target actor =>
      exact (Operation.guarded_moveInstrument _ _ _).map _
  | moveInstrument id target actor =>
      exact (Operation.guarded_moveInstrument _ _ _).map _
  | recordIssuance instrument owner =>
      exact (Operation.guarded_recordIssuance _ _).map _
  | transfer instrument fromOwner toOwner reason =>
      exact (Operation.guarded_transfer _ _ _ _).map _
  | createListing instrument actor =>
      exact (Operation.guarded_createListing _ _).map _
  | transitionListing id target actor =>
      exact (Operation.guarded_transitionListing _ _ _).map _
  | placeBid actor request => exact (Operation.guarded_placeBid _ _).map _
  | transitionBid id target actor =>
      exact (Operation.guarded_transitionBid _ _ _).map _
  | acceptBid id actor => exact (Operation.guarded_acceptBid _ _).map _
  | rejectBid id actor => exact (Operation.guarded_rejectBid _ _).map _
  | placeAsk actor request => exact (Operation.guarded_placeAsk _ _).map _
  | transitionAsk id target actor =>
      exact (Operation.guarded_transitionAsk _ _ _).map _
  | updateAsk id actor update => exact (Operation.guarded_updateAsk _ _ _).map _

end DebtMarket.Command
