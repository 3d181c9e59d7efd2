import DebtMarket.Proofs.Market.Writing
import DebtMarket.Proofs.Store.Entities
import DebtMarket.Proofs.Store.Rivals

/-! Listings that are written to the store directly, of any status and version, deleted or not,
and moved to another instrument or opened again at will. At most one listing offers an
instrument all the same: whoever writes, the store takes a listing exactly if it is newer than
the stored one and no other listing offers its instrument while it does.
-/

namespace DebtMarket

namespace Store

/-- At most one listing offers an instrument, and the store finds it if there is one, in
whatever order it goes through the listings.
-/
structure SoleOffers (s : Store) : Prop where
  single : ∀ instrument, (s.listings.rows.filter fun x => x.offers instrument).length ≤ 1
  found
    : ∀ instrument x,
        s.openListing? instrument = some x
          ↔ x ∈ s.listings.rows ∧ x.offers instrument = true
  anyOrder
    : ∀ (rows : List Listing) (instrument : InstrumentId), rows.Perm s.listings.rows
        → (rows.find? fun x => x.offers instrument) = s.openListing? instrument

/-- What the store says against a listing: it is not newer than the stored one, or else it
offers an instrument that another listing offers.
-/
inductive Objects (s : Store) (x : Listing) : StoreError → Prop
  | stale {y} (stored : s.listings.find? x.id = some y)
    (old : Table.version x ≤ Table.version y)
    : Objects s x
        (.versionConflict "Listing" (toString x.id) x.revision.version y.revision.version)
  | contested {y}
    (newer : ∀ y, s.listings.find? x.id = some y → Table.version y < Table.version x)
    (offers : x.offers x.instrument = true) (stored : y ∈ s.listings.rows)
    (apart : y.id ≠ x.id) (offers' : y.offers x.instrument = true)
    : Objects s x
        (.constraint "Listing" (toString x.id)
          s!"instrument {x.instrument} already has open listing {y.id}")

/-- What the store makes of a listing that it takes: it is newer than the one it replaces and
is found from then on, and all others are found as before.
-/
structure Renews (s : Store) (x : Listing) (s' : Store) : Prop where
  newer : ∀ y, s.listings.find? x.id = some y → Table.version y < Table.version x
  found : s'.listings.find? x.id = some x
  others : ∀ id, id ≠ x.id → s'.listings.find? id = s.listings.find? id

variable {s s' : Store} {x y : Listing} {e : StoreError}

-----------------------------------------------------------------------------------------
-- The listing of an instrument
-----------------------------------------------------------------------------------------

/-- One listing at most meets a test that only listings meet that offer some instrument. -/
theorem Keyed.single_offer (keyed : s.Keyed) (unrivalled : s.Unrivalled) {p : Listing → Bool}
    (instrument : InstrumentId) (offers : ∀ x, p x = true → x.offers instrument = true)
    : (s.listings.rows.filter p).length ≤ 1 := by
  refine length_filter_le_one keyed.listings fun x stored y stored' meets meets' => ?_
  exact unrivalled x stored y stored' instrument (offers x meets) (offers y meets')

theorem Keyed.soleOffers (keyed : s.Keyed) (unrivalled : s.Unrivalled) : s.SoleOffers := by
  have single (instrument : InstrumentId)
      : (s.listings.rows.filter fun x => x.offers instrument).length ≤ 1 :=
    keyed.single_offer unrivalled instrument fun _ offers => offers
  constructor
  · exact single
  · intro instrument x
    exact find?_eq_some_of_single (single instrument)
  · intro rows instrument order
    exact find?_of_perm (single instrument) order

/-- The rival that is found is the only other listing that offers the instrument. -/
theorem Keyed.rival?_eq_some (keyed : s.Keyed) (unrivalled : s.Unrivalled)
    : s.rival? x = some y
      ↔ y ∈ s.listings.rows ∧ y.id ≠ x.id ∧ y.offers x.instrument = true := by
  rw [rival?, find?_eq_some_of_single]
  · simp
  · exact keyed.single_offer unrivalled x.instrument (by simp)

-----------------------------------------------------------------------------------------
-- What the store makes of a listing
-----------------------------------------------------------------------------------------

/-- A listing is refused for its version, or for a rival if its version is accepted. -/
theorem write_listing_eq_error
    : s.write (.listing x) = .error e
      ↔ s.listings.checkVersion x = .error e
        ∨ s.listings.checkVersion x = .ok () ∧ x.offers x.instrument = true
          ∧ ∃ y, s.rival? x = some y
            ∧ .constraint "Listing" (toString x.id)
                s!"instrument {x.instrument} already has open listing {y.id}" = e := by
  rw [write_listing]
  cases s.listings.checkVersion x with
  | error e => simp [bind, Except.bind]
  | ok u =>
      cases offers : x.offers x.instrument with
      | false => simp [bind, Except.bind, pure, Except.pure]
      | true =>
          cases rival : s.rival? x with
          | none => simp [bind, Except.bind, pure, Except.pure]
          | some other => simp [bind, Except.bind, throw, throwThe, MonadExceptOf.throw]

/-- A listing is refused with what the store says against it, and taken otherwise. -/
theorem Keyed.objects_iff (keyed : s.Keyed) (unrivalled : s.Unrivalled)
    : s.Objects x e ↔ s.write (.listing x) = .error e := by
  rw [write_listing_eq_error]
  constructor
  · intro objects
    cases objects with
    | stale stored old => exact .inl (Table.checkVersion_eq_error.2 ⟨_, stored, old, rfl⟩)
    | contested newer offers stored apart offers' =>
        have rival := (keyed.rival?_eq_some unrivalled).2 ⟨stored, apart, offers'⟩
        exact .inr ⟨Table.checkVersion_eq_ok.2 newer, offers, _, rival, rfl⟩
  · intro refused
    rcases refused with checked | ⟨checked, offers, y, rival, rfl⟩
    · obtain ⟨y, stored, old, rfl⟩ := Table.checkVersion_eq_error.1 checked
      exact .stale stored old
    · obtain ⟨stored, apart, offers'⟩ := (keyed.rival?_eq_some unrivalled).1 rival
      exact .contested (Table.checkVersion_eq_ok.1 checked) offers stored apart offers'

/-- A listing that is taken is newer than the one that it replaces, and no other changes. -/
theorem Takes.renews (h : s.Takes (.listing x) s') : s.Renews x s' := by
  cases h with
  | listing newer alone =>
      refine ⟨newer, Table.find?_put_self _ _, fun id other => ?_⟩
      exact Table.find?_put_other other.symm

end Store

namespace Market

/-- Whatever is written, at most one listing offers an instrument, and the store finds it in
whatever order it goes through the listings. A listing is refused exactly with what the store
says against it, and then nothing changes; otherwise it is newer than the one that it replaces,
and no other changes.
-/
theorem listings_unrivalled (clock : Instant) (threshold : Nat) (outlet : Outlet)
    (source : IdKind → Nat → Uuid) (writes : List Write)
    : let m := (start clock threshold outlet source).writing writes
      m.store.SoleOffers
      ∧ ∀ x,
          match m.write (.listing x) with
          | (.ok (), m') => (∀ e, ¬m.store.Objects x e) ∧ m.store.Renews x m'.store
          | (.error e, m') => (∀ e', m.store.Objects x e' ↔ e' = e) ∧ m' = m := by
  intro m
  obtain ⟨keyed, unrivalled⟩ : m.store.Keyed ∧ m.store.Unrivalled :=
    writing_invariant (P := fun s => s.Keyed ∧ s.Unrivalled)
      (fun takes ⟨keyed, unrivalled⟩ => ⟨takes.keyed keyed, takes.unrivalled unrivalled⟩)
      ⟨Store.sound_empty.tables_keyed, Store.unrivalled_empty⟩ writes
  refine ⟨keyed.soleOffers unrivalled, fun x => ?_⟩
  rcases m.write_cases (.listing x) with ⟨s, written, answer⟩ | ⟨e, refused, answer⟩
  · rw [answer]
    refine ⟨fun e objects => ?_, (Store.write_takes written).renews⟩
    rw [keyed.objects_iff unrivalled, written] at objects
    cases objects
  · rw [answer]
    refine ⟨fun e' => ?_, rfl⟩
    rw [keyed.objects_iff unrivalled, refused]
    simp [eq_comm]

end Market

end DebtMarket
