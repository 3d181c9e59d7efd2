import DebtMarket.Proofs.Floor.Forms

/-! The integrity of the order book. A listing offers a stored instrument, and the bids and asks
on it are stored only for a listing that is stored as well: bids of other companies than the
one that sells, asks of that company alone. Nothing re-points a record later on, since all that
a command changes about it is its status or, by a revision, the price of an ask.
-/

namespace DebtMarket

namespace Command

variable {s : Store} {c : Command}

/-- No command changes what is fixed about a listing. -/
theorem AltersListing.origin {x x' : Listing} (h : c.AltersListing x x')
    : x'.origin = x.origin := by
  cases h with
  | move listed => exact Listing.moveTo_origin _ _ _

/-- No command changes what is fixed about a bid. -/
theorem AltersBid.origin {b b' : Bid} (h : c.AltersBid s b b') : b'.origin = b.origin := by
  cases h <;> exact Bid.moveTo_origin _ _ _

/-- No command changes what is fixed about an ask. -/
theorem AltersAsk.origin {a a' : Ask} (h : c.AltersAsk a a') : a'.origin = a.origin := by
  cases h with
  | revise asker applied => exact (Ask.applyUpdate_fixed applied).2
  | move listed => exact Ask.moveTo_origin _ _ _

/-- The price of an ask is changed only by a revision of its company while it is active. -/
theorem AltersAsk.revises {a a' : Ask} (h : c.AltersAsk a a') (repriced : a'.price ≠ a.price)
    : a.status = .active
      ∧ ∃ actor update, c = .updateAsk a.id actor update ∧ actor.company = a.asker := by
  cases h with
  | revise asker applied =>
      exact ⟨(Ask.applyUpdate_fixed applied).1, _, _, rfl, asker⟩
  | move listed => exact absurd (Ask.moveTo_price _ _ _) repriced

end Command

/-- A listing offers a stored instrument. -/
def Listing.Refers (x : Listing) (s : Store) : Prop :=
  ∃ y, s.instruments.get? x.instrument = some y

/-- A bid is on a stored listing of another company. -/
def Bid.Refers (b : Bid) (s : Store) : Prop :=
  ∃ x, s.listings.get? b.listing = some x ∧ b.bidder ≠ x.seller

/-- An ask is on a stored listing of its company. -/
def Ask.Refers (a : Ask) (s : Store) : Prop :=
  ∃ x, s.listings.get? a.listing = some x ∧ a.asker = x.seller

namespace Command

variable {s s' : Store} {c : Command}

/-- A listing refers to the same instrument after every change. -/
theorem AltersListing.refers {x x' : Listing} (h : c.AltersListing x x')
    (refers : x.Refers s)
    : x'.Refers s := by
  cases h with
  | move listed => exact refers

/-- A bid refers to the same listing after every change. -/
theorem AltersBid.refers {b b' : Bid} (h : c.AltersBid s b b') (refers : b.Refers s')
    : b'.Refers s' := by
  cases h <;> exact refers

/-- An ask refers to the same listing after every change. -/
theorem AltersAsk.refers {a a' : Ask} (h : c.AltersAsk a a') (refers : a.Refers s)
    : a'.Refers s := by
  have there : a'.listing = a.listing := congrArg (fun origin => origin.2.1) h.origin
  have asker : a'.asker = a.asker := congrArg (fun origin => origin.2.2.1) h.origin
  rwa [Ask.Refers, there, asker]

end Command

namespace Store

/-- Every record refers to a stored one: a listing to its instrument, a bid or an ask to its
listing, which sells for another company than the bidder's and for the company that asks.
-/
structure Linked (s : Store) : Prop where
  listings : ∀ id x, s.listings.get? id = some x → x.Refers s
  bids : ∀ id b, s.bids.get? id = some b → b.Refers s
  asks : ∀ id a, s.asks.get? id = some a → a.Refers s

theorem linked_empty : empty.Linked where
  listings _ _ found := by cases found
  bids _ _ found := by cases found
  asks _ _ found := by cases found

/-- All prices are above zero. -/
structure Priced (s : Store) : Prop where
  instruments
    : ∀ id x, s.instruments.get? id = some x
      → 0 < x.faceValue.decimal.value ∧ 0 < x.maturityPayment.decimal.value
  bids : ∀ id b, s.bids.get? id = some b → 0 < b.amount.decimal.value
  asks : ∀ id a, s.asks.get? id = some a → 0 < a.amount.decimal.value

theorem priced (s : Store) : s.Priced where
  instruments _ x _ := ⟨x.faceValue.value_pos, x.maturityPayment.value_pos⟩
  bids _ b _ := b.amount.value_pos
  asks _ a _ := a.amount.value_pos

/-- No listing, bid or ask vanishes or loses what is fixed about it. -/
structure Fixes (s s' : Store) : Prop where
  listings
    : ∀ id x, s.listings.get? id = some x
      → ∃ x', s'.listings.get? id = some x' ∧ x'.origin = x.origin
  bids
    : ∀ id b, s.bids.get? id = some b
      → ∃ b', s'.bids.get? id = some b' ∧ b'.origin = b.origin
  asks
    : ∀ id a, s.asks.get? id = some a
      → ∃ a', s'.asks.get? id = some a' ∧ a'.origin = a.origin

end Store

namespace Floor

variable {f : Floor}

/-- What is fixed about a listing stays so over every schedule. -/
theorem Consistent.run_listing (h : f.Consistent) {id : ListingId} {x : Listing}
    (found : f.market.store.listings.get? id = some x) (later : List Turn)
    : ∃ x', (f.run later).market.store.listings.get? id = some x' ∧ x'.origin = x.origin := by
  have evolving := evolving_table (fun _ _ _ => Command.Yields.listings)
    (fun _ _ _ _ => trivial) (fun _ _ _ _ alters => alters.origin) id
  exact evolving.run h (fun _ _ how same => how.2.trans same) found rfl later

/-- What is fixed about a bid stays so over every schedule. -/
theorem Consistent.run_bid (h : f.Consistent) {id : BidId} {b : Bid}
    (found : f.market.store.bids.get? id = some b) (later : List Turn)
    : ∃ b', (f.run later).market.store.bids.get? id = some b' ∧ b'.origin = b.origin := by
  have evolving := evolving_table (fun _ _ _ => Command.Yields.bids)
    (fun _ _ _ _ => trivial) (fun _ _ _ _ alters => alters.origin) id
  exact evolving.run h (fun _ _ how same => how.2.trans same) found rfl later

/-- What is fixed about an ask stays so over every schedule. -/
theorem Consistent.run_ask (h : f.Consistent) {id : AskId} {a : Ask}
    (found : f.market.store.asks.get? id = some a) (later : List Turn)
    : ∃ a', (f.run later).market.store.asks.get? id = some a' ∧ a'.origin = a.origin := by
  have evolving := evolving_table (fun _ _ _ => Command.Yields.asks)
    (fun _ _ _ _ => trivial) (fun _ _ _ _ alters => alters.origin) id
  exact evolving.run h (fun _ _ how same => how.2.trans same) found rfl later

theorem Consistent.run_fixes (h : f.Consistent) (later : List Turn)
    : f.market.store.Fixes (f.run later).market.store :=
  ⟨fun _ _ found => h.run_listing found later, fun _ _ found => h.run_bid found later,
    fun _ _ found => h.run_ask found later⟩

/-- A turn keeps every record linked: what it refers to was stored when it was created, and
stays with what is fixed about it.
-/
theorem Consistent.after_linked (h : f.Consistent) (linked : f.market.store.Linked)
    (turn : Turn)
    : (f.after turn).market.store.Linked := by
  have instrument {id x} (stored : f.market.store.instruments.get? id = some x)
      : ∃ x', (f.after turn).market.store.instruments.get? id = some x' := by
    have evolves := h.after_instruments turn id
    rw [stored] at evolves
    obtain ⟨x', stored', -⟩ := evolves.of_some
    exact ⟨x', stored'⟩
  -- a listing never passes to another seller, so bids stay foreign and asks stay own
  have listing {id x} (stored : f.market.store.listings.get? id = some x)
      : ∃ x', (f.after turn).market.store.listings.get? id = some x'
          ∧ x'.seller = x.seller := by
    obtain ⟨x', stored', same⟩ := h.run_listing stored [turn]
    exact ⟨x', stored', congrArg (fun origin => origin.2.2.1) same⟩
  constructor
  · refine (h.after_listings turn).all (fun id x found => ?_) ?_ ?_
    · obtain ⟨y, stored⟩ := linked.listings id x found
      exact instrument stored
    · rintro x ⟨c, -, lists⟩
      cases lists with
      | start stored => exact instrument stored
    · rintro x x' ⟨c, -, alters⟩
      exact alters.refers
  · refine (h.after_offers turn).all (fun id b found => ?_) ?_ ?_
    · obtain ⟨x, stored, foreign⟩ := linked.bids id b found
      obtain ⟨x', stored', seller⟩ := listing stored
      exact ⟨x', stored', seller ▸ foreign⟩
    · rintro b ⟨c, -, offers⟩
      cases offers with
      | place stored foreign =>
          obtain ⟨x', stored', seller⟩ := listing stored
          exact ⟨x', stored', seller ▸ foreign⟩
    · rintro b b' ⟨c, -, alters⟩
      exact alters.refers
  · refine (h.after_asks turn).all (fun id a found => ?_) ?_ ?_
    · obtain ⟨x, stored, own⟩ := linked.asks id a found
      obtain ⟨x', stored', seller⟩ := listing stored
      exact ⟨x', stored', seller ▸ own⟩
    · rintro a ⟨c, -, asks⟩
      cases asks with
      | @place actor request x terms now make id stored own made =>
          obtain ⟨x', stored', seller⟩ := listing stored
          rw [Ask.Refers, (Ask.place_new made id).2.1, Ask.place_asker made id, own]
          exact ⟨x', stored', seller.symm⟩
    · rintro a a' ⟨c, -, alters⟩
      exact alters.refers

/-- Every schedule keeps every record linked, by induction on it. -/
theorem Consistent.run_linked (h : f.Consistent) (linked : f.market.store.Linked)
    (schedule : List Turn)
    : (f.run schedule).market.store.Linked := by
  induction schedule generalizing f with
  | nil => exact linked
  | cons turn rest ih => exact ih (h.after turn) (h.after_linked linked turn)

/-- A turn changes the price of an ask only by a revision of its company while it is active. -/
theorem Consistent.after_price (h : f.Consistent) (turn : Turn) {id : AskId} {a a' : Ask}
    (found : f.market.store.asks.get? id = some a)
    (found' : (f.after turn).market.store.asks.get? id = some a')
    (repriced : a'.price ≠ a.price)
    : a.status = .active
      ∧ ∃ actor update, f.Commits turn (.updateAsk id actor update)
          ∧ actor.company = a.asker := by
  have evolves := h.after_asks turn id
  rw [found, found'] at evolves
  obtain ⟨_, same, rfl | ⟨-, c, commits, alters⟩⟩ := evolves.of_some
  · cases same
    exact absurd rfl repriced
  · cases same
    obtain ⟨active, actor, update, rfl, asker⟩ := alters.revises repriced
    obtain rfl : a.id = id := Table.get?_id found
    exact ⟨active, actor, update, commits, asker⟩

/-- At every moment of a run all records are linked and all prices above zero; what is fixed
about listings, bids and asks never changes, and the price of an ask is changed only by a
revision of the company that asks, made while the ask is active.
-/
theorem order_book_integrity (clock : Instant) (threshold : Nat) (outlet : Outlet)
    (source : IdKind → Nat → Uuid) (schedule : List Turn)
    : let floors moment := (start clock threshold outlet source).run moment
      let stores moment := (floors moment).market.store
      (stores schedule).Linked ∧ (stores schedule).Priced
      ∧ (∀ later, (stores schedule).Fixes (stores (schedule ++ later)))
      ∧ ∀ turn id a a', (stores schedule).asks.get? id = some a
        → (stores (schedule ++ [turn])).asks.get? id = some a' → a'.price ≠ a.price
        → a.status = .active
          ∧ ∃ actor update, (floors schedule).Commits turn (.updateAsk id actor update)
              ∧ actor.company = a.asker := by
  intro floors stores
  have consistent : (floors schedule).Consistent :=
    (consistent_start clock threshold outlet source).run schedule
  refine ⟨?_, Store.priced _, fun later => ?_, fun turn id a a' found found' => ?_⟩
  · exact (consistent_start clock threshold outlet source).run_linked Store.linked_empty _
  · simp only [stores, floors, run_append]
    exact consistent.run_fixes later
  · simp only [stores, floors, run_append] at found'
    exact consistent.after_price turn found found'

end Floor

end DebtMarket
