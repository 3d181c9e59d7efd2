import DebtMarket.Proofs.Floor.Selection
import DebtMarket.Proofs.Ownership.Owner

/-! Open listings and owners. A listing is opened by the company that owns its instrument, but
nothing looks at listings when an instrument is handed on, and nothing looks at owners when
an administrator opens a listing again. So every open listing offers its instrument for the
company that owns it exactly as long as neither happens.
-/

namespace DebtMarket

namespace Store

variable {s s' : Store} {w : Write}

/-- Every open listing offers its instrument for the company that owns it. -/
def OffersOwned (s : Store) : Prop :=
  ∀ id x, s.listings.get? id = some x → x.isOpen = true → s.owner? x.instrument = some x.seller

/-- An instrument changes hands while a listing offers it. -/
def HandsOnOffered (s s' : Store) : Prop :=
  ∃ id x, s.listings.get? id = some x ∧ x.isOpen = true
    ∧ s'.owner? x.instrument ≠ s.owner? x.instrument

/-- A listing is opened again though its seller does not own its instrument. -/
def ReopensUnowned (s s' : Store) : Prop :=
  ∃ id x x', s.listings.get? id = some x ∧ x.isOpen = false
    ∧ s'.listings.get? id = some x' ∧ x'.isOpen = true
    ∧ s'.owner? x'.instrument ≠ some x'.seller

/-- How a write of a command may change the listings: by a new one of the company that owns
its instrument, or by a move of one listing to another status.
-/
inductive Listings (s : Store) : Table Listing → Prop
  | opened {x : Listing} (absent : s.listings.find? x.id = none)
    (owned : s.owner? x.instrument = some x.seller)
    : Listings s (s.listings.put x)
  | moved {x : Listing} {target now} (stored : s.listings.get? x.id = some x)
    (other : x.status ≠ target)
    : Listings s (s.listings.put (x.moveTo target now))

/-- Every write of a command leaves the listings alone or changes nothing else. -/
theorem Yields.listings (h : s.Yields s') (sound : s.Sound)
    : s'.listings = s.listings ∨ s.Listings s'.listings ∧ s'.ledger = s.ledger := by
  obtain ⟨g, c, outcome, w, notice, performs, written⟩ := h
  cases write_takes written with
  | listing newer =>
      refine .inr ⟨?_, rfl⟩
      cases performs with
      | createListing stored owned owner unoffered =>
          refine .opened (sound.listings.find?_of_first rfl newer) ?_
          rw [owner?, Listing.start, owned, Option.map_some, beq_iff_eq.1 owner]
      | transitionListing stored other permitted unoffered =>
          obtain rfl := Table.get?_id stored
          exact .moved stored other
  | _ => exact .inl rfl

/-- A listing that is open after a change was open before, is of the company that owns its
instrument, or was opened again.
-/
theorem Listings.of_open {t : Table Listing} (h : s.Listings t) {id : ListingId}
    {x : Listing} (found : t.get? id = some x) (isOpen : x.isOpen = true)
    : s.listings.get? id = some x ∨ s.owner? x.instrument = some x.seller
      ∨ ∃ old, s.listings.get? id = some old ∧ old.isOpen = false := by
  cases h with
  | opened absent owned =>
      rcases Table.of_get?_put found with rfl | ⟨-, before⟩
      · exact .inr (.inl owned)
      · exact .inl before
  | @moved old target now stored other =>
      rcases Table.of_get?_put found with rfl | ⟨-, before⟩
      · have same : old.id = id := Table.get?_id found
        refine .inr (.inr ⟨old, same ▸ stored, ?_⟩)
        have opened : target = .opened := beq_iff_eq.1 isOpen
        exact beq_eq_false_iff_ne.2 (opened ▸ other)
      · exact .inl before

/-- After a write every open listing offers its instrument for its owner exactly if neither
an offered instrument changed hands nor a listing was opened again without owning.
-/
theorem Yields.offersOwned_iff (h : s.Yields s') (sound : s.Sound) (before : s.OffersOwned)
    : s'.OffersOwned ↔ ¬s.HandsOnOffered s' ∧ ¬s.ReopensUnowned s' := by
  rcases h.listings sound with same | ⟨changed, ledger⟩
  · constructor
    · intro owned
      refine ⟨?_, ?_⟩
      · rintro ⟨id, x, found, isOpen, differs⟩
        rw [owned id x (same ▸ found) isOpen, before id x found isOpen] at differs
        exact differs rfl
      · rintro ⟨id, x, x', found, closed, found', isOpen, -⟩
        rw [same, found] at found'
        cases found'
        rw [closed] at isOpen
        cases isOpen
    · rintro ⟨kept, -⟩ id x found isOpen
      rw [same] at found
      by_contra differs
      refine kept ⟨id, x, found, isOpen, ?_⟩
      rwa [before id x found isOpen]
  · have owner (instrument : InstrumentId) : s'.owner? instrument = s.owner? instrument := by
      rw [owner?, ledger, owner?]
    constructor
    · intro owned
      refine ⟨?_, ?_⟩
      · rintro ⟨id, x, -, -, differs⟩
        exact differs (owner _)
      · rintro ⟨id, x, x', -, -, found, isOpen, differs⟩
        exact differs (owned id x' found isOpen)
    · rintro ⟨-, kept⟩ id x found isOpen
      rcases changed.of_open found isOpen with old | owned | ⟨old, stored, closed⟩
      · rw [owner]
        exact before id x old isOpen
      · rw [owner]
        exact owned
      · by_contra differs
        exact kept ⟨id, old, x, stored, closed, found, isOpen, differs⟩

end Store

namespace Floor

variable {f : Floor}

/-- A turn keeps every open listing with the owner exactly if it hands no offered instrument
on and opens no listing again that does not own.
-/
theorem Consistent.offersOwned_iff (h : f.Consistent) (turn : Turn)
    (before : f.market.store.OffersOwned)
    : (f.after turn).market.store.OffersOwned
      ↔ ¬f.market.store.HandsOnOffered (f.after turn).market.store
        ∧ ¬f.market.store.ReopensUnowned (f.after turn).market.store := by
  rcases h.after_store turn with same | yields
  · rw [same]
    refine ⟨fun _ => ⟨?_, ?_⟩, fun _ => before⟩
    · rintro ⟨id, x, -, -, differs⟩
      exact differs rfl
    · rintro ⟨id, x, x', -, -, found, isOpen, differs⟩
      exact differs (before id x' found isOpen)
  · exact yields.offersOwned_iff h.sound before

/-- At every moment of a schedule all open listings offer their instruments for the companies
that own them exactly if no offered instrument ever changes hands and no listing is opened
again whose seller does not own its instrument.
-/
theorem offers_owned_iff (clock : Instant) (threshold : Nat) (outlet : Outlet)
    (source : IdKind → Nat → Uuid) (schedule : List Turn)
    : let stores moment := ((start clock threshold outlet source).run moment).market.store
      (∀ moment, moment <+: schedule → (stores moment).OffersOwned)
      ↔ ∀ moment turn, moment ++ [turn] <+: schedule
          → ¬(stores moment).HandsOnOffered (stores (moment ++ [turn]))
            ∧ ¬(stores moment).ReopensUnowned (stores (moment ++ [turn])) := by
  intro stores
  have turns (moment : List Turn) (turn : Turn) (before : (stores moment).OffersOwned)
      : (stores (moment ++ [turn])).OffersOwned
        ↔ ¬(stores moment).HandsOnOffered (stores (moment ++ [turn]))
          ∧ ¬(stores moment).ReopensUnowned (stores (moment ++ [turn])) := by
    have consistent := (consistent_start clock threshold outlet source).run moment
    have iff := consistent.offersOwned_iff turn before
    rwa [← run_nil (after _ turn), ← run_cons, ← run_append] at iff
  constructor
  · intro owned moment turn reached
    have earlier := owned moment ((List.prefix_append moment [turn]).trans reached)
    exact (turns moment turn earlier).1 (owned _ reached)
  · intro kept moment reached
    induction moment using List.reverseRecOn with
    | nil => exact fun id x found => by cases found
    | append_singleton earlier turn ih =>
        have before := ih ((List.prefix_append earlier [turn]).trans reached)
        exact (turns earlier turn before).2 (kept earlier turn reached)

namespace Sample

open Market.Sample

/-- An administrator of a third company. -/
def regulator : Actor :=
  { user := ⟨⟨3⟩⟩, company := ⟨⟨3⟩⟩, role := .admin }

/-- A listing is closed by an administrator; its seller hands the instrument on, and the
administrator opens the listing again.
-/
def reopening : List Command :=
  [
    .createDraft seller
      {
        name := "note",
        faceValue := one.decimal,
        currency := euro,
        maturityDate := nextYear,
        maturityPayment := one.decimal,
        publicPayload := none
      },
    .recordIssuance ⟨⟨0⟩⟩ seller.company,
    .createListing ⟨⟨0⟩⟩ seller,
    .transitionListing ⟨⟨0⟩⟩ .closed regulator,
    .transfer ⟨⟨0⟩⟩ seller.company buyer.company .trade,
    .transitionListing ⟨⟨0⟩⟩ .opened regulator
  ]

end Sample

/-- The listing that was opened again offers an instrument that its seller does not own. -/
theorem reopened_unowned
    : ¬(Sample.opened.run (Sample.inTurn Sample.reopening)).market.store.OffersOwned := by
  have listing : ((Sample.opened.run (Sample.inTurn Sample.reopening)).market.store.listings.get?
        ⟨⟨0⟩⟩).map (fun x => (x.isOpen, x.instrument, x.seller))
      = some (true, ⟨⟨0⟩⟩, Sample.seller.company) := by cbv
  have owner : (Sample.opened.run (Sample.inTurn Sample.reopening)).market.store.owner? ⟨⟨0⟩⟩
      = some Sample.buyer.company := by cbv
  obtain ⟨x, found, facts⟩ := Option.map_eq_some_iff.1 listing
  simp only [Prod.mk.injEq] at facts
  obtain ⟨isOpen, instrument, seller⟩ := facts
  intro owned
  have wrong := owned ⟨⟨0⟩⟩ x found isOpen
  rw [instrument, seller, owner] at wrong
  cases wrong

end Floor

end DebtMarket
