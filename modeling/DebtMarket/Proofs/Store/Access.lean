import DebtMarket.Proofs.Record
import DebtMarket.Proofs.Store.Ledger
import DebtMarket.Proofs.Store.Table

/-! The theory of writes. A write is accepted by the table or the ledger that it concerns,
and leaves the others as they are. A sound store has sound tables.
-/

namespace DebtMarket

namespace Store

/-- A store with sound tables. -/
structure Sound (s : Store) : Prop where
  instruments : s.instruments.Sound
  listings : s.listings.Sound
  bids : s.bids.Sound
  asks : s.asks.Sound

theorem sound_empty : empty.Sound :=
  ⟨Table.sound_empty, Table.sound_empty, Table.sound_empty, Table.sound_empty⟩

variable {s s' : Store}

-----------------------------------------------------------------------------------------
-- What a write comes to
-----------------------------------------------------------------------------------------

theorem write_instrument (s : Store) (x : Instrument)
    : s.write (.instrument x)
      = (s.instruments.save x).map fun t => { s with instruments := t } := by
  rw [write, writing, InPlace.apply_within]
  rfl

/-- A listing is checked for its version and then for a rival, and put in its place. -/
theorem write_listing (s : Store) (x : Listing)
    : s.write (.listing x) = (do
        s.listings.checkVersion x
        if x.offers x.instrument then
          if let some other := s.rival? x then
            throw
              (.constraint "Listing" (toString x.id)
                s!"instrument {x.instrument} already has open listing {other.id}")
        return { s with listings := s.listings.put x }) := by
  rw [write, writing, savingListing, InPlace.apply_get_bind, InPlace.apply_check_bind]
  refine bind_congr fun _ => ?_
  cases x.offers x.instrument with
  | false => rfl
  | true => cases s.rival? x <;> rfl

theorem write_bid (s : Store) (b : Bid)
    : s.write (.bid b) = (s.bids.save b).map fun t => { s with bids := t } := by
  rw [write, writing, InPlace.apply_within]
  rfl

theorem write_bids (s : Store) (bids : List Bid)
    : s.write (.bids bids) = (s.bids.saveAll bids).map fun t => { s with bids := t } := by
  rw [write, writing, InPlace.apply_within]
  rfl

theorem write_ask (s : Store) (a : Ask)
    : s.write (.ask a) = (s.asks.save a).map fun t => { s with asks := t } := by
  rw [write, writing, InPlace.apply_within]
  rfl

theorem write_row (s : Store) (row : Ownership)
    : s.write (.row row) = (s.ledger.insert row).map fun l => { s with ledger := l } := by
  rw [write, writing, InPlace.apply_within]
  rfl

theorem write_transfer (s : Store) (closing opened : Ownership)
    : s.write (.transfer closing opened)
      = (s.ledger.transfer closing opened).map fun l => { s with ledger := l } := by
  rw [write, writing, InPlace.apply_within]
  rfl

/-- Every write is made as a whole or not at all, by cases on it. -/
theorem writing_whole (w : Write) : (writing w).Whole := by
  cases w with
  | instrument x => exact (Table.saving_whole x).within fun _ => rfl
  | listing x =>
      have puts : InPlace.Whole
          (modify fun s : Store => { s with listings := s.listings.put x }
            : InPlace Store StoreError Unit) :=
        (InPlace.surely_modify _).whole
      refine InPlace.reads_get.bind_whole fun s => ?_
      refine (InPlace.reads_check _).bind_whole fun _ => ?_
      dsimp only
      split
      · split
        · exact InPlace.whole_throw_bind _ _
        · exact puts
      · exact puts
  | bid b => exact (Table.saving_whole b).within fun _ => rfl
  | bids written => exact (Table.savingAll_whole written).within fun _ => rfl
  | ask a => exact (Table.saving_whole a).within fun _ => rfl
  | row row => exact (Ledger.inserting_whole row).within fun _ => rfl
  | transfer closing opened =>
      exact (Ledger.transferring_whole closing opened).within fun _ => rfl

/-- A write leaves what the store makes of it, or the store as it is. -/
theorem tried_writing (s : Store) (w : Write)
    : (writing w).tried s
      = match s.write w with
        | .ok s' => (.ok (), s')
        | .error e => (.error e, s) := by
  rw [(writing_whole w).tried_eq, write]
  cases (writing w).apply s <;> rfl

-----------------------------------------------------------------------------------------
-- Accepted writes
-----------------------------------------------------------------------------------------

theorem write_instrument_eq_ok {x : Instrument}
    : s.write (.instrument x) = .ok s'
      ↔ ∃ t, s.instruments.save x = .ok t ∧ s' = { s with instruments := t } := by
  rw [write_instrument]
  cases s.instruments.save x <;> simp [Except.map, eq_comm]

/-- A listing is stored if its version is greater than the stored one and no other listing
offers its instrument while it does.
-/
theorem write_listing_eq_ok {x : Listing}
    : s.write (.listing x) = .ok s'
      ↔ s.listings.checkVersion x = .ok ()
        ∧ (x.offers x.instrument = true → s.rival? x = none)
        ∧ s' = { s with listings := s.listings.put x } := by
  rw [write_listing]
  cases s.listings.checkVersion x with
  | error e => simp [bind, Except.bind]
  | ok u =>
      cases offers : x.offers x.instrument with
      | false => simp [bind, Except.bind, pure, Except.pure, eq_comm]
      | true =>
          cases rival : s.rival? x with
          | none => simp [bind, Except.bind, pure, Except.pure, eq_comm]
          | some other =>
              simp [bind, Except.bind, throw, throwThe, MonadExceptOf.throw]

theorem write_bid_eq_ok {b : Bid}
    : s.write (.bid b) = .ok s'
      ↔ ∃ t, s.bids.save b = .ok t ∧ s' = { s with bids := t } := by
  rw [write_bid]
  cases s.bids.save b <;> simp [Except.map, eq_comm]

theorem write_bids_eq_ok {bids : List Bid}
    : s.write (.bids bids) = .ok s'
      ↔ ∃ t, s.bids.saveAll bids = .ok t ∧ s' = { s with bids := t } := by
  rw [write_bids]
  cases s.bids.saveAll bids <;> simp [Except.map, eq_comm]

theorem write_ask_eq_ok {a : Ask}
    : s.write (.ask a) = .ok s' ↔ ∃ t, s.asks.save a = .ok t ∧ s' = { s with asks := t } := by
  rw [write_ask]
  cases s.asks.save a <;> simp [Except.map, eq_comm]

theorem write_row_eq_ok {row : Ownership}
    : s.write (.row row) = .ok s'
      ↔ ∃ l, s.ledger.insert row = .ok l ∧ s' = { s with ledger := l } := by
  rw [write_row]
  cases s.ledger.insert row <;> simp [Except.map, eq_comm]

theorem write_transfer_eq_ok {closing opened : Ownership}
    : s.write (.transfer closing opened) = .ok s'
      ↔ ∃ l, s.ledger.transfer closing opened = .ok l ∧ s' = { s with ledger := l } := by
  rw [write_transfer]
  cases s.ledger.transfer closing opened <;> simp [Except.map, eq_comm]

/-- What an accepted write makes of a store: it puts records into one table, or rows into the
ledger, and leaves all else as it is.
-/
inductive Takes (s : Store) : Write → Store → Prop
  | instrument {x}
    (newer
      : ∀ y, s.instruments.find? (Stored.id x) = some y → Table.version y < Table.version x)
    : Takes s (.instrument x) { s with instruments := s.instruments.put x }
  | listing {x}
    (newer : ∀ y, s.listings.find? (Stored.id x) = some y → Table.version y < Table.version x)
    (alone : x.offers x.instrument = true → s.rival? x = none)
    : Takes s (.listing x) { s with listings := s.listings.put x }
  | bid {b}
    (newer : ∀ a, s.bids.find? (Stored.id b) = some a → Table.version a < Table.version b)
    : Takes s (.bid b) { s with bids := s.bids.put b }
  | bids {bids}
    (newer
      : ∀ b ∈ bids, ∀ a, s.bids.find? (Stored.id b) = some a
        → Table.version a < Table.version b)
    : Takes s (.bids bids) { s with bids := bids.foldl Table.put s.bids }
  | ask {a}
    (newer : ∀ b, s.asks.find? (Stored.id a) = some b → Table.version b < Table.version a)
    : Takes s (.ask a) { s with asks := s.asks.put a }
  | row {row l} (inserted : s.ledger.insert row = .ok l)
    : Takes s (.row row) { s with ledger := l }
  | transfer {closing opened l} (transferred : s.ledger.transfer closing opened = .ok l)
    : Takes s (.transfer closing opened) { s with ledger := l }

/-- Every write that is accepted is taken by its table or the ledger. -/
theorem write_takes {w : Write} (h : s.write w = .ok s') : s.Takes w s' := by
  cases w with
  | instrument x =>
      obtain ⟨t, saved, rfl⟩ := write_instrument_eq_ok.1 h
      obtain ⟨newer, rfl⟩ := Table.save_eq_ok.1 saved
      exact .instrument newer
  | listing x =>
      obtain ⟨checked, alone, rfl⟩ := write_listing_eq_ok.1 h
      exact .listing (Table.checkVersion_eq_ok.1 checked) alone
  | bid b =>
      obtain ⟨t, saved, rfl⟩ := write_bid_eq_ok.1 h
      obtain ⟨newer, rfl⟩ := Table.save_eq_ok.1 saved
      exact .bid newer
  | bids bids =>
      obtain ⟨t, saved, rfl⟩ := write_bids_eq_ok.1 h
      obtain ⟨newer, rfl⟩ := Table.saveAll_eq_ok.1 saved
      exact .bids newer
  | ask a =>
      obtain ⟨t, saved, rfl⟩ := write_ask_eq_ok.1 h
      obtain ⟨newer, rfl⟩ := Table.save_eq_ok.1 saved
      exact .ask newer
  | row row =>
      obtain ⟨l, inserted, rfl⟩ := write_row_eq_ok.1 h
      exact .row inserted
  | transfer closing opened =>
      obtain ⟨l, transferred, rfl⟩ := write_transfer_eq_ok.1 h
      exact .transfer transferred

/-- Every write that its table or the ledger takes is accepted. -/
theorem Takes.accepted {w : Write} (h : s.Takes w s') : s.write w = .ok s' := by
  cases h with
  | instrument newer =>
      exact write_instrument_eq_ok.2 ⟨_, Table.save_eq_ok.2 ⟨newer, rfl⟩, rfl⟩
  | listing newer alone =>
      exact write_listing_eq_ok.2 ⟨Table.checkVersion_eq_ok.2 newer, alone, rfl⟩
  | bid newer => exact write_bid_eq_ok.2 ⟨_, Table.save_eq_ok.2 ⟨newer, rfl⟩, rfl⟩
  | bids newer => exact write_bids_eq_ok.2 ⟨_, Table.saveAll_eq_ok.2 ⟨newer, rfl⟩, rfl⟩
  | ask newer => exact write_ask_eq_ok.2 ⟨_, Table.save_eq_ok.2 ⟨newer, rfl⟩, rfl⟩
  | row inserted => exact write_row_eq_ok.2 ⟨_, inserted, rfl⟩
  | transfer transferred => exact write_transfer_eq_ok.2 ⟨_, transferred, rfl⟩

-----------------------------------------------------------------------------------------
-- Bids on a listing
-----------------------------------------------------------------------------------------

/-- The bids on a listing are those that are stored for it. -/
theorem mem_bidsFor_of_keyed (keyed : s.bids.Keyed) {listing : ListingId} {b : Bid}
    : b ∈ s.bidsFor listing ↔ s.bids.get? b.id = some b ∧ b.listing = listing := by
  simp only [bidsFor, Table.search, inOrderOf, List.mem_mergeSort, List.mem_filter,
    Bool.and_eq_true, beq_iff_eq, Table.get?_eq_some]
  constructor
  · rintro ⟨member, live, same⟩
    exact ⟨⟨keyed.find?_of_mem member, live⟩, same⟩
  · rintro ⟨⟨found, live⟩, same⟩
    exact ⟨Table.find?_mem found, live, same⟩

theorem mem_bidsFor (sound : s.Sound) {listing : ListingId} {b : Bid}
    : b ∈ s.bidsFor listing ↔ s.bids.get? b.id = some b ∧ b.listing = listing :=
  mem_bidsFor_of_keyed sound.bids.keyed

/-- The bids on a listing are found once each. -/
theorem nodup_bidsFor (sound : s.Sound) {listing : ListingId}
    : ((s.bidsFor listing).map Bid.id).Nodup := by
  have unique : (s.bids.rows.map Bid.id).Nodup := sound.bids.unique
  rw [bidsFor, Table.search, inOrderOf,
    ((List.mergeSort_perm _ _).map Bid.id).nodup_iff]
  exact (List.filter_sublist.map Bid.id).nodup unique

variable {b : Bid} {setAside : List Bid} {now : Instant}

/-- A bid that is set aside along with the selection of another one was stored for the same
listing and waited for an answer.
-/
theorem of_setAside (sound : s.Sound)
    (others
      : ((s.bidsFor b.listing).filter fun other => other.id != b.id && other.isPending).mapM
          (fun other => other.setAside now) = .ok setAside)
    {b' : Bid} (member : b' ∈ setAside)
    : ∃ other, s.bids.get? other.id = some other ∧ other.listing = b.listing
        ∧ other.id ≠ b.id ∧ other.isPending = true ∧ b' = other.moveTo .notSelected now := by
  obtain ⟨other, among, pending, moved⟩ := Bid.mem_setAside others member
  obtain ⟨offered, tests⟩ := List.mem_filter.1 among
  obtain ⟨stored, listing⟩ := (mem_bidsFor sound).1 offered
  have apart := bne_iff_ne.1 (Bool.and_eq_true_iff.1 tests).1
  exact ⟨other, stored, listing, apart, pending, moved⟩

/-- A bid that is selected and those that are set aside along with it are different bids. -/
theorem nodup_acceptance (sound : s.Sound)
    (others
      : ((s.bidsFor b.listing).filter fun other => other.id != b.id && other.isPending).mapM
          (fun other => other.setAside now) = .ok setAside)
    : ((b.moveTo .selected now :: setAside).map Bid.id).Nodup := by
  refine List.nodup_cons.2 ⟨fun among => ?_, ?_⟩
  · obtain ⟨b', member, same⟩ := List.mem_map.1 among
    obtain ⟨other, -, -, apart, -, rfl⟩ := of_setAside sound others member
    exact apart same
  · rw [Bid.setAside_ids others]
    exact (List.filter_sublist.map Bid.id).nodup (nodup_bidsFor sound)

end Store

end DebtMarket
