import DebtMarket.Lock
import DebtMarket.Proofs.Store.Access

/-! What is left alone while scopes are locked. Whoever locks a scope may rely on what it
protects: an instrument protects its record, its rows in the ledger and which listing offers
it, and a listing protects its record, its bids and its asks. A write that is covered by the
locks of its writer leaves alone whatever is protected by the locks of others, and the
listings of the bids and asks that it stores are open and stay so until it is made.
-/

namespace DebtMarket

namespace Table

variable {α π : Type} {kind : IdKind} [Stored α kind] {t t₁ t₂ : Table α} {a : α}
  {fixed : α → π} {pinned pinned' : α → Prop}

/-- The records of a table stay. What is fixed about them never changes, and those that are
pinned do not change at all.
-/
structure Keeps (fixed : α → π) (pinned : α → Prop) (t t₁ : Table α) : Prop where
  stays
    : ∀ id a, t.get? id = some a → ∃ a₁, t₁.get? id = some a₁ ∧ fixed a₁ = fixed a
  pins : ∀ id a, t.get? id = some a → pinned a → t₁.get? id = some a

theorem Keeps.refl (t : Table α) : t.Keeps fixed pinned t :=
  ⟨fun _ a stored => ⟨a, stored, rfl⟩, fun _ _ stored _ => stored⟩

theorem Keeps.trans (h : t.Keeps fixed pinned t₁) (h₁ : t₁.Keeps fixed pinned t₂)
    : t.Keeps fixed pinned t₂ := by
  refine ⟨fun id a stored => ?_, fun id a stored pin => ?_⟩
  · obtain ⟨a₁, stored₁, same₁⟩ := h.stays id a stored
    obtain ⟨a₂, stored₂, same₂⟩ := h₁.stays id a₁ stored₁
    exact ⟨a₂, stored₂, same₂.trans same₁⟩
  · exact h₁.pins id a (h.pins id a stored pin) pin

theorem Keeps.mono (h : t.Keeps fixed pinned t₁) (fewer : ∀ a, pinned' a → pinned a)
    : t.Keeps fixed pinned' t₁ :=
  ⟨h.stays, fun id a stored pin => h.pins id a stored (fewer a pin)⟩

/-- The other records stay when a live record is put in the place of one that is not pinned.
-/
theorem keeps_put (live : isLive a = true)
    (replaced : ∀ b, t.find? (Stored.id a) = some b → fixed a = fixed b ∧ ¬pinned b)
    : t.Keeps fixed pinned (t.put a) := by
  refine ⟨fun id b stored => ?_, fun id b stored pin => ?_⟩
  · rw [get?_put]
    by_cases same : id = Stored.id a
    · subst same
      rw [if_pos rfl]
      exact ⟨a, by simp [Option.filter, live],
        (replaced b (get?_eq_some.1 stored).1).1⟩
    · rw [if_neg same]
      exact ⟨b, stored, rfl⟩
  · rw [get?_put]
    by_cases same : id = Stored.id a
    · subst same
      exact absurd pin (replaced b (get?_eq_some.1 stored).1).2
    · rw [if_neg same]
      exact stored

/-- A record is fit to be saved: it is a new one, or follows a stored one that is pinned. -/
structure Fit (fixed : α → π) (pinned : α → Prop) (t : Table α) (a : α) : Prop where
  live : isLive a = true
  positive : 0 < version a
  origin
    : version a = 1 ∨ ∃ b, t.get? (Stored.id a) = some b ∧ fixed a = fixed b ∧ pinned b

/-- A new record is fit. -/
theorem Fit.first {now : Instant} (new : Stored.revision a = Revision.first now)
    : t.Fit fixed pinned a where
  live := by rw [isLive, new]; rfl
  positive := by rw [version, new]; exact Nat.one_pos
  origin := .inl (by rw [version, new]; rfl)

/-- A record that was changed once since it was stored is fit if the stored one is pinned.
-/
theorem Fit.next {b : α} {now : Instant} (stored : t.get? (Stored.id b) = some b)
    (touched : Stored.revision a = (Stored.revision b).touch now)
    (id : Stored.id a = Stored.id b) (same : fixed a = fixed b) (pin : pinned b)
    : t.Fit fixed pinned a where
  live := by
    rw [isLive, touched]
    exact (get?_eq_some.1 stored).2
  positive := by
    have grown := Revision.toNat_nextVersion (Stored.revision b).version
    simp only [version, touched, Revision.touch]
    omega
  origin := .inr ⟨b, id ▸ stored, same, pin⟩

/-- A record stays fit, since the one it follows is pinned. -/
theorem Fit.keeps (h : t.Fit fixed pinned a) (k : t.Keeps fixed pinned t₁)
    : t₁.Fit fixed pinned a := by
  refine ⟨h.live, h.positive, ?_⟩
  rcases h.origin with first | ⟨b, stored, same, pin⟩
  · exact .inl first
  · exact .inr ⟨b, k.pins _ b stored pin, same, pin⟩

/-- A fit record that is newer than the stored one follows it: a new record has the least of
all versions.
-/
theorem Fit.replaced (h : t.Fit fixed pinned a) (sound : t.Sound)
    (newer : ∀ b, t.find? (Stored.id a) = some b → version b < version a) {b : α}
    (found : t.find? (Stored.id a) = some b)
    : fixed a = fixed b ∧ pinned b := by
  rcases h.origin with first | ⟨c, stored, same, pin⟩
  · have older := newer b found
    have positive := sound.positive b (find?_mem found)
    omega
  · cases Option.some.inj ((get?_eq_some.1 stored).1.symm.trans found)
    exact ⟨same, pin⟩

/-- The records that others have pinned stay when a fit record is saved. -/
theorem Fit.keeps_put (h : t.Fit fixed pinned a) (sound : t.Sound)
    (newer : ∀ b, t.find? (Stored.id a) = some b → version b < version a)
    (apart : ∀ b, pinned b → ¬pinned' b)
    : t.Keeps fixed pinned' (t.put a) := by
  apply Table.keeps_put h.live
  intro b found
  obtain ⟨same, pin⟩ := h.replaced sound newer found
  exact ⟨same, apart b pin⟩

end Table

/-- The listings of the bids and asks that a write stores. -/
def Write.listings : Write → List ListingId
  | .bid b => [b.listing]
  | .bids written => written.map Bid.listing
  | .ask a => [a.listing]
  | .instrument _ | .listing _ | .row _ | .transfer .. => []

namespace Store

variable {locked : List Scope} {s s₁ s₂ : Store}

/-- What others leave alone while some scopes are locked. -/
structure Keeps (locked : List Scope) (s s₁ : Store) : Prop where
  sound : s₁.Sound
  instruments
    : s.instruments.Keeps Instrument.id (fun x => .instrument x.id ∈ locked) s₁.instruments
  listings
    : s.listings.Keeps Listing.instrument (fun x => .listing x.id ∈ locked) s₁.listings
  bids : s.bids.Keeps Bid.listing (fun b => .listing b.listing ∈ locked) s₁.bids
  asks : s.asks.Keeps Ask.listing (fun a => .listing a.listing ∈ locked) s₁.asks
  offered : ∀ id, .instrument id ∈ locked → s₁.openListing? id = s.openListing? id
  offers : ∀ id, .listing id ∈ locked → s₁.bidsFor id = s.bidsFor id
  owned : ∀ id, .instrument id ∈ locked → s₁.ledger.rowsOf id = s.ledger.rowsOf id

theorem Keeps.refl (sound : s.Sound) : s.Keeps locked s where
  sound := sound
  instruments := .refl _
  listings := .refl _
  bids := .refl _
  asks := .refl _
  offered := fun _ _ => rfl
  offers := fun _ _ => rfl
  owned := fun _ _ => rfl

theorem Keeps.trans (h : s.Keeps locked s₁) (h₁ : s₁.Keeps locked s₂)
    : s.Keeps locked s₂ where
  sound := h₁.sound
  instruments := h.instruments.trans h₁.instruments
  listings := h.listings.trans h₁.listings
  bids := h.bids.trans h₁.bids
  asks := h.asks.trans h₁.asks
  offered := fun id lock => (h₁.offered id lock).trans (h.offered id lock)
  offers := fun id lock => (h₁.offers id lock).trans (h.offers id lock)
  owned := fun id lock => (h₁.owned id lock).trans (h.owned id lock)

/-- Fewer locks protect less. -/
theorem Keeps.mono {fewer : List Scope} (h : s.Keeps locked s₁)
    (subset : ∀ scope ∈ fewer, scope ∈ locked)
    : s.Keeps fewer s₁ where
  sound := h.sound
  instruments := h.instruments.mono fun _ => subset _
  listings := h.listings.mono fun _ => subset _
  bids := h.bids.mono fun _ => subset _
  asks := h.asks.mono fun _ => subset _
  offered := fun id lock => h.offered id (subset _ lock)
  offers := fun id lock => h.offers id (subset _ lock)
  owned := fun id lock => h.owned id (subset _ lock)

theorem Keeps.active? (h : s.Keeps locked s₁) {id : InstrumentId}
    (lock : .instrument id ∈ locked)
    : s₁.ledger.active? id = s.ledger.active? id := by
  rw [Ledger.active?, h.owned id lock]
  rfl

-----------------------------------------------------------------------------------------
-- Covered writes
-----------------------------------------------------------------------------------------

/-- A listing is stored and open. -/
def Opened (s : Store) (listing : ListingId) : Prop :=
  ∃ x, s.listings.get? listing = some x ∧ x.isOpen = true

instance (s : Store) (listing : ListingId) : Decidable (s.Opened listing) :=
  decidable_of_iff ((s.listings.get? listing).any Listing.isOpen = true)
    (Option.any_eq_true _ _)

/-- An open listing stays open while it is locked. -/
theorem Opened.keeps {listing : ListingId} (h : s.Opened listing) (k : s.Keeps locked s₁)
    (lock : .listing listing ∈ locked)
    : s₁.Opened listing := by
  obtain ⟨x, stored, isOpen⟩ := h
  refine ⟨x, k.listings.pins listing x stored ?_, isOpen⟩
  rw [show x.id = listing from Table.get?_id stored]
  exact lock

/-- A write is covered by locks: whenever it is accepted, it leaves alone whatever the locks
of others protect, and until then the listings of the bids and asks that it stores are open.
-/
structure Covers (locked : List Scope) (s : Store) (w : Write) : Prop where
  apart
    : ∀ s₁, s.Keeps locked s₁ → ∀ s₂, s₁.write w = .ok s₂
      → ∀ others : List Scope, (∀ scope ∈ others, scope ∉ locked) → s₁.Keeps others s₂
  opened : ∀ s₁, s.Keeps locked s₁ → ∀ listing ∈ w.listings, s₁.Opened listing

/-- A write stays covered whatever others do. -/
theorem Covers.keeps {w : Write} (h : s.Covers locked w) (k : s.Keeps locked s₁)
    : s₁.Covers locked w where
  apart := fun s₂ k₂ => h.apart s₂ (k.trans k₂)
  opened := fun s₂ k₂ => h.opened s₂ (k.trans k₂)

/-- An instrument is written while it is locked, if it is stored. -/
theorem covers_instrument {x : Instrument}
    (fit : s.instruments.Fit Instrument.id (fun x => .instrument x.id ∈ locked) x)
    : Covers locked s (.instrument x) := by
  refine ⟨fun s₁ k s₂ accepted others apart => ?_, fun _ _ _ member => nomatch member⟩
  obtain ⟨t, saved, rfl⟩ := write_instrument_eq_ok.1 accepted
  obtain ⟨newer, rfl⟩ := Table.save_eq_ok.1 saved
  have fit := fit.keeps k.instruments
  exact {
    sound := { k.sound with instruments := k.sound.instruments.put fit.positive }
    instruments :=
      fit.keeps_put k.sound.instruments newer fun b pin other => apart _ other pin
    listings := .refl _
    bids := .refl _
    asks := .refl _
    offered := fun _ _ => rfl
    offers := fun _ _ => rfl
    owned := fun _ _ => rfl
  }

/-- A listing is written while its instrument is locked, and itself if it is stored. -/
theorem covers_listing {x : Listing} (lock : .instrument x.instrument ∈ locked)
    (fit : s.listings.Fit Listing.instrument (fun x => .listing x.id ∈ locked) x)
    : Covers locked s (.listing x) := by
  refine ⟨fun s₁ k s₂ accepted others apart => ?_, fun _ _ _ member => nomatch member⟩
  obtain ⟨checked, -, rfl⟩ := write_listing_eq_ok.1 accepted
  have newer := Table.checkVersion_eq_ok.1 checked
  have fit := fit.keeps k.listings
  refine {
    sound := { k.sound with listings := k.sound.listings.put fit.positive }
    instruments := .refl _
    listings := fit.keeps_put k.sound.listings newer fun b pin other => apart _ other pin
    bids := .refl _
    asks := .refl _
    offered := fun id other => ?_
    offers := fun _ _ => rfl
    owned := fun _ _ => rfl
  }
  have elsewhere {y : Listing} (same : x.instrument = y.instrument) : y.offers id = false := by
    have : y.instrument ≠ id := fun here => apart _ other (here ▸ same ▸ lock)
    simp [Listing.offers, this]
  have rows := k.sound.listings.keyed.filter_put (a := x) (p := fun x => x.offers id)
    (elsewhere rfl) fun b found => elsewhere (fit.replaced k.sound.listings newer found).1
  rw [openListing?, openListing?, ← List.head?_filter, ← List.head?_filter, rows]

/-- A bid on a listing that is not protected may be put in the place of another one. -/
theorem keeps_putBid {others : List Scope} {b : Bid} (sound : s.Sound)
    (live : Table.isLive b = true) (positive : 0 < Table.version b)
    (replaced : ∀ c, s.bids.find? b.id = some c → c.listing = b.listing)
    (apart : .listing b.listing ∉ others)
    : s.Keeps others { s with bids := s.bids.put b } := by
  refine {
    sound := { sound with bids := sound.bids.put positive }
    instruments := .refl _
    listings := .refl _
    bids := Table.keeps_put live fun c found => ?_
    asks := .refl _
    offered := fun _ _ => rfl
    offers := fun id lock => ?_
    owned := fun _ _ => rfl
  }
  · have same := replaced c found
    exact ⟨same.symm, same ▸ apart⟩
  · have elsewhere {c : Bid} (same : c.listing = b.listing)
        : (Table.isLive c && c.listing == id) = false := by
      have : c.listing ≠ id := fun here => apart (same ▸ here ▸ lock)
      simp [this]
    rw [bidsFor, bidsFor, Table.search, Table.search,
      sound.bids.keyed.filter_put (elsewhere rfl) fun c found => elsewhere (replaced c found)]

/-- Several bids on a listing that is not protected may be put in, by induction on them. -/
theorem keeps_putBids {others : List Scope} {listing : ListingId} {bids : List Bid}
    (sound : s.Sound) (live : ∀ b ∈ bids, Table.isLive b = true)
    (positive : ∀ b ∈ bids, 0 < Table.version b) (placed : ∀ b ∈ bids, b.listing = listing)
    (replaced : ∀ b ∈ bids, ∀ c, s.bids.find? b.id = some c → c.listing = listing)
    (apart : .listing listing ∉ others)
    : s.Keeps others { s with bids := bids.foldl Table.put s.bids } := by
  induction bids generalizing s with
  | nil => exact .refl sound
  | cons b rest ih =>
      obtain ⟨firstLive, live⟩ := List.forall_mem_cons.1 live
      obtain ⟨firstPositive, positive⟩ := List.forall_mem_cons.1 positive
      obtain ⟨firstPlaced, placed⟩ := List.forall_mem_cons.1 placed
      obtain ⟨firstReplaced, replaced⟩ := List.forall_mem_cons.1 replaced
      have first : s.Keeps others { s with bids := s.bids.put b } :=
        keeps_putBid sound firstLive firstPositive
          (fun c found => (firstReplaced c found).trans firstPlaced.symm)
          (firstPlaced ▸ apart)
      refine first.trans (ih first.sound live positive placed fun d member c found => ?_)
      rw [Table.find?_put] at found
      split at found
      · cases found
        exact firstPlaced
      · exact replaced d member c found

/-- A bid is written while its listing is locked and open. -/
theorem covers_bid {b : Bid} (lock : .listing b.listing ∈ locked)
    (opened : s.Opened b.listing)
    (fit : s.bids.Fit Bid.listing (fun b => .listing b.listing ∈ locked) b)
    : Covers locked s (.bid b) := by
  refine ⟨fun s₁ k s₂ accepted others apart => ?_, fun s₁ k listing member => ?_⟩
  · obtain ⟨t, saved, rfl⟩ := write_bid_eq_ok.1 accepted
    obtain ⟨newer, rfl⟩ := Table.save_eq_ok.1 saved
    have fit := fit.keeps k.bids
    exact keeps_putBid k.sound fit.live fit.positive
      (fun c found => (fit.replaced k.sound.bids newer found).1.symm)
      fun other => apart _ other lock
  · rw [List.mem_singleton.1 member]
    exact opened.keeps k lock

/-- Several bids on one listing are written while it is locked and open. -/
theorem covers_bids {listing : ListingId} {bids : List Bid}
    (lock : .listing listing ∈ locked) (opened : s.Opened listing)
    (placed : ∀ b ∈ bids, b.listing = listing)
    (fit : ∀ b ∈ bids,
      s.bids.Fit Bid.listing (fun b => .listing b.listing ∈ locked) b)
    : Covers locked s (.bids bids) := by
  refine ⟨fun s₁ k s₂ accepted others apart => ?_, fun s₁ k other member => ?_⟩
  · obtain ⟨t, saved, rfl⟩ := write_bids_eq_ok.1 accepted
    obtain ⟨newer, rfl⟩ := Table.saveAll_eq_ok.1 saved
    refine keeps_putBids k.sound (fun b member => (fit b member).live)
      (fun b member => (fit b member).positive) placed (fun b member c found => ?_)
      fun other => apart _ other lock
    have follows :=
      ((fit b member).keeps k.bids).replaced k.sound.bids (newer b member) found
    exact follows.1.symm.trans (placed b member)
  · obtain ⟨b, written, rfl⟩ := List.mem_map.1 member
    rw [placed b written]
    exact opened.keeps k lock

/-- An ask is written while its listing is locked and open. -/
theorem covers_ask {a : Ask} (lock : .listing a.listing ∈ locked)
    (opened : s.Opened a.listing)
    (fit : s.asks.Fit Ask.listing (fun a => .listing a.listing ∈ locked) a)
    : Covers locked s (.ask a) := by
  refine ⟨fun s₁ k s₂ accepted others apart => ?_, fun s₁ k listing member => ?_⟩
  · obtain ⟨t, saved, rfl⟩ := write_ask_eq_ok.1 accepted
    obtain ⟨newer, rfl⟩ := Table.save_eq_ok.1 saved
    have fit := fit.keeps k.asks
    exact {
      sound := { k.sound with asks := k.sound.asks.put fit.positive }
      instruments := .refl _
      listings := .refl _
      bids := .refl _
      asks := fit.keeps_put k.sound.asks newer fun b pin other => apart _ other pin
      offered := fun _ _ => rfl
      offers := fun _ _ => rfl
      owned := fun _ _ => rfl
    }
  · rw [List.mem_singleton.1 member]
    exact opened.keeps k lock

/-- A row is written while its instrument is locked. -/
theorem covers_row {row : Ownership} (lock : .instrument row.instrument ∈ locked)
    : Covers locked s (.row row) := by
  refine ⟨fun s₁ k s₂ accepted others apart => ?_, fun _ _ _ member => nomatch member⟩
  obtain ⟨l, inserted, rfl⟩ := write_row_eq_ok.1 accepted
  exact {
    sound := ⟨k.sound.instruments, k.sound.listings, k.sound.bids, k.sound.asks⟩
    instruments := .refl _
    listings := .refl _
    bids := .refl _
    asks := .refl _
    offered := fun _ _ => rfl
    offers := fun _ _ => rfl
    owned := fun id other =>
      Ledger.rowsOf_insert_other inserted fun here => apart _ other (here ▸ lock)
  }

/-- An instrument is handed over while it is locked. -/
theorem covers_transfer {closing opened : Ownership}
    (lock : .instrument opened.instrument ∈ locked)
    : Covers locked s (.transfer closing opened) := by
  refine ⟨fun s₁ k s₂ accepted others apart => ?_, fun _ _ _ member => nomatch member⟩
  obtain ⟨l, handed, rfl⟩ := write_transfer_eq_ok.1 accepted
  exact {
    sound := ⟨k.sound.instruments, k.sound.listings, k.sound.bids, k.sound.asks⟩
    instruments := .refl _
    listings := .refl _
    bids := .refl _
    asks := .refl _
    offered := fun _ _ => rfl
    offers := fun _ _ => rfl
    owned := fun id other =>
      Ledger.rowsOf_transfer_other handed fun here => apart _ other (here ▸ lock)
  }

end Store

end DebtMarket
