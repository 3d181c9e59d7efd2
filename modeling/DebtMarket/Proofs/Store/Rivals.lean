import DebtMarket.Proofs.Store.Access

/-! Listings without rivals. A store takes a listing that offers an instrument only if no other
one does, so at most one listing offers an instrument at a time; and this one is what the store
finds when it is asked for the open listing of the instrument.
-/

namespace DebtMarket

namespace Store

/-- No two listings offer the same instrument. -/
def Unrivalled (s : Store) : Prop :=
  ∀ x ∈ s.listings.rows, ∀ y ∈ s.listings.rows, ∀ instrument,
    x.offers instrument = true → y.offers instrument = true → x.id = y.id

/-- A stored listing is open and offers an instrument. -/
def Offers (s : Store) (listing : ListingId) (instrument : InstrumentId) : Prop :=
  ∃ x, s.listings.get? listing = some x ∧ x.status = .opened ∧ x.instrument = instrument

theorem unrivalled_empty : empty.Unrivalled :=
  fun _ member => absurd member List.not_mem_nil

variable {s s' : Store}

/-- A listing that is stored has no rival: by cases on the write. -/
theorem Takes.unrivalled {w : Write} (h : s.Takes w s') (unrivalled : s.Unrivalled)
    : s'.Unrivalled := by
  cases h with
  | @listing x newer alone =>
      have apart {y : Listing} (member : y ∈ s.listings.rows) {instrument : InstrumentId}
          (offers : x.offers instrument = true) (offers' : y.offers instrument = true)
          : x.id = y.id := by
        by_contra differ
        have same : x.instrument = instrument := by
          simp only [Listing.offers, Bool.and_eq_true, beq_iff_eq] at offers
          exact offers.1.1
        subst same
        have none := alone offers
        rw [rival?, List.find?_eq_none] at none
        apply none y member
        rw [offers', Bool.and_true, bne_iff_ne]
        exact Ne.symm differ
      intro y member z member' instrument offers offers'
      rcases Table.mem_put member with rfl | stored
      · rcases Table.mem_put member' with rfl | stored'
        · rfl
        · exact apart stored' offers offers'
      · rcases Table.mem_put member' with rfl | stored'
        · exact (apart stored offers' offers).symm
        · exact unrivalled y stored z stored' instrument offers offers'
  | _ => exact unrivalled

/-- A stored listing offers an instrument if it is live and open. -/
theorem offers_iff (sound : s.Sound) {listing : ListingId} {instrument : InstrumentId}
    : s.Offers listing instrument
      ↔ ∃ x ∈ s.listings.rows, x.offers instrument = true ∧ x.id = listing := by
  have opened (x : Listing)
      : x.offers instrument = true
        ↔ Table.isLive x = true ∧ x.status = .opened ∧ x.instrument = instrument := by
    rw [Listing.offers, Bool.and_eq_true, Bool.and_eq_true, beq_iff_eq, Listing.isOpen_iff]
    constructor
    · rintro ⟨⟨same, status⟩, live⟩
      exact ⟨live, status, same⟩
    · rintro ⟨live, status, same⟩
      exact ⟨⟨same, status⟩, live⟩
  constructor
  · rintro ⟨x, stored, status, same⟩
    obtain ⟨found, live⟩ := Table.get?_eq_some.1 stored
    exact ⟨x, Table.find?_mem found, (opened x).2 ⟨live, status, same⟩, Table.find?_id found⟩
  · rintro ⟨x, member, offers, rfl⟩
    obtain ⟨live, status, same⟩ := (opened x).1 offers
    have found := sound.listings.find?_of_mem member
    exact ⟨x, Table.get?_eq_some.2 ⟨found, live⟩, status, same⟩

/-- The listing that is found to offer an instrument is the only one that does. -/
theorem openListing?_eq_some_iff (sound : s.Sound) (unrivalled : s.Unrivalled)
    {instrument : InstrumentId} {listing : ListingId}
    : (∃ x, s.openListing? instrument = some x ∧ x.id = listing)
      ↔ s.Offers listing instrument := by
  rw [offers_iff sound]
  constructor
  · rintro ⟨x, found, same⟩
    have offers : x.offers instrument = true := by simpa using List.find?_some found
    exact ⟨x, List.mem_of_find?_eq_some found, offers, same⟩
  · rintro ⟨x, member, offers, rfl⟩
    rw [openListing?]
    cases found : s.listings.rows.find? fun x => x.offers instrument with
    | none => exact absurd offers (List.find?_eq_none.1 found x member)
    | some y =>
        have stored := List.mem_of_find?_eq_some found
        have offers' : y.offers instrument = true := by simpa using List.find?_some found
        exact ⟨y, rfl, unrivalled y stored x member instrument offers' offers⟩

theorem openListing?_eq_none_iff (sound : s.Sound) {instrument : InstrumentId}
    : s.openListing? instrument = none ↔ ∀ listing, ¬s.Offers listing instrument := by
  simp only [offers_iff sound, openListing?, List.find?_eq_none]
  constructor
  · rintro none listing ⟨x, member, offers, -⟩
    exact none x member offers
  · intro none x member offers
    exact none x.id ⟨x, member, offers, rfl⟩

end Store

end DebtMarket
