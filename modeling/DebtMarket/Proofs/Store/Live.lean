import DebtMarket.Proofs.Store.Entities
import DebtMarket.Proofs.Store.Evolution
import DebtMarket.Proofs.Store.Parts

/-! Stores without deleted records. Whatever is asked of a store has the same answer when the
records that are marked as deleted are taken out of it; and a write that neither stores nor
replaces such a record is accepted or refused as before, and leaves them where they are.
-/

namespace DebtMarket

namespace Table

variable {α : Type} {kind : IdKind} [Stored α kind] {t t' : Table α} {a : α}

/-- The records that are not marked as deleted. -/
def live (t : Table α) : Table α :=
  t.part isLive

/-- The records that are marked as deleted. -/
def deleted (t : Table α) : Table α :=
  t.part fun a => !isLive a

/-- A record leaves the deleted ones alone: it is none of them, and replaces none of them. -/
def Spares (t : Table α) (a : α) : Prop :=
  t.Meets isLive a

/-- A new record under an identifier that is not in use leaves the deleted ones alone. -/
theorem spares_first {now : Instant} (new : Stored.revision a = Revision.first now)
    {id : Id kind} (same : Stored.id a = id) (absent : t.find? id = none)
    : t.Spares a := by
  subst same
  constructor
  · rw [isLive, new]
    rfl
  · intro b found
    cases absent.symm.trans found

/-- A record that was changed since it was found leaves the deleted ones alone. -/
theorem spares_next {b : α} (stored : t.get? (Stored.id b) = some b) {now : Instant}
    (same : Stored.id a = Stored.id b)
    (touched : Stored.revision a = (Stored.revision b).touch now)
    : t.Spares a := by
  obtain ⟨found, alive⟩ := get?_eq_some.1 stored
  refine ⟨isLive_of_touched stored touched, fun c other => ?_⟩
  rw [same, found] at other
  cases other
  exact alive

/-- The record of an identifier is found among those that are not deleted just as before. -/
theorem Keyed.get?_live (h : t.Keyed) (id : Id kind) : t.live.get? id = t.get? id := by
  rw [get?, live, h.find?_part, Option.filter_filter, get?]
  simp only [Bool.and_self]

theorem search_live (t : Table α) (test : α → Bool) : t.live.search test = t.search test := by
  simp only [search, live, part, List.filter_filter]
  refine congrArg (inOrderOf _) (List.filter_congr fun a _ => ?_)
  cases isLive a <;> simp

/-- The version of a record is checked as before. -/
theorem Keyed.checkVersion_live (h : t.Keyed) (spares : t.Spares a)
    : t.live.checkVersion a = t.checkVersion a := by
  have found : t.live.find? (Stored.id a) = t.find? (Stored.id a) := by
    rw [live, h.find?_part]
    cases found : t.find? (Stored.id a) with
    | none => rfl
    | some b => rw [Option.filter_some, if_pos (spares.replaced b found)]
  exact checkVersion_congr found

/-- Records are put among those that are not deleted, and leave the others alone. -/
theorem Keyed.puts_live {records : List α} (h : t.Keyed)
    (spares : ∀ a ∈ records, t.Spares a)
    : (records.foldl Table.put t).live = records.foldl Table.put t.live
      ∧ (records.foldl Table.put t).deleted = t.deleted := by
  refine ⟨h.part_puts spares, h.part_puts_apart spares fun b alive => ?_⟩
  rw [alive]
  rfl

theorem Keyed.put_live (h : t.Keyed) (spares : t.Spares a)
    : (t.put a).live = t.live.put a ∧ (t.put a).deleted = t.deleted :=
  h.puts_live (List.forall_mem_singleton.2 spares)

/-- A record is saved or refused as before. -/
theorem Keyed.save_live (h : t.Keyed) (spares : t.Spares a)
    : t.live.save a = (t.save a).map live := by
  rw [save_eq, save_eq, h.checkVersion_live spares, ← (h.put_live spares).1]
  cases t.checkVersion a <;> rfl

/-- Several records are saved or refused as before. -/
theorem Keyed.saveAll_live {records : List α} (h : t.Keyed)
    (spares : ∀ a ∈ records, t.Spares a)
    : t.live.saveAll records = (t.saveAll records).map live := by
  have checks := checkVersions_congr fun a member => h.checkVersion_live (spares a member)
  rw [saveAll_eq, saveAll_eq, checks, ← (h.puts_live spares).1]
  cases records.forM t.checkVersion <;> rfl

end Table

namespace Store

/-- The store without the records that are marked as deleted. -/
def live (s : Store) : Store :=
  {
    s with
    instruments := s.instruments.live,
    listings := s.listings.live,
    bids := s.bids.live,
    asks := s.asks.live
  }

/-- The records that are marked as deleted. -/
def deleted (s : Store) : Store :=
  {
    instruments := s.instruments.deleted,
    listings := s.listings.deleted,
    bids := s.bids.deleted,
    asks := s.asks.deleted,
    ledger := Ledger.empty
  }

/-- A write leaves the deleted records alone. -/
def Spares (s : Store) : Write → Prop
  | .instrument x => s.instruments.Spares x
  | .listing x => s.listings.Spares x
  | .bid b => s.bids.Spares b
  | .bids bids => ∀ b ∈ bids, s.bids.Spares b
  | .ask a => s.asks.Spares a
  | .row _ | .transfer .. => True

variable {s s' : Store}

-----------------------------------------------------------------------------------------
-- Reading
-----------------------------------------------------------------------------------------

/-- Only listings that are not deleted offer an instrument. -/
theorem isLive_of_offers {x : Listing} {instrument : InstrumentId}
    (offers : x.offers instrument = true)
    : Table.isLive x = true := by
  rw [Listing.offers, Bool.and_eq_true] at offers
  exact offers.2

theorem openListing?_live (s : Store) (instrument : InstrumentId)
    : s.live.openListing? instrument = s.openListing? instrument := by
  simp only [openListing?, live, Table.live, Table.part, List.find?_filter]
  refine congrArg (List.find? · s.listings.rows) (funext fun x => ?_)
  cases offers : x.offers instrument with
  | false => simp
  | true => simp [isLive_of_offers offers]

theorem rival?_live (s : Store) (x : Listing) : s.live.rival? x = s.rival? x := by
  simp only [rival?, live, Table.live, Table.part, List.find?_filter]
  refine congrArg (List.find? · s.listings.rows) (funext fun other => ?_)
  cases offers : other.offers x.instrument with
  | false => simp
  | true => simp only [isLive_of_offers offers, true_and, Bool.decide_eq_true]

/-- Every query has the same answer without the deleted records. -/
theorem Keyed.answer_live (keyed : s.Keyed) (q : Query) : s.live.answer q = s.answer q := by
  cases q with
  | instrument id => exact keyed.instruments.get?_live id
  | listing id => exact keyed.listings.get?_live id
  | bid id => exact keyed.bids.get?_live id
  | ask id => exact keyed.asks.get?_live id
  | openListing instrument => exact s.openListing?_live instrument
  | bidsFor listing => exact Table.search_live _ _
  | activeRow instrument => rfl

/-- Every inquiry comes to the same records without the deleted ones. -/
theorem Keyed.inquire_live (keyed : s.Keyed) (q : Inquiry) : s.live.inquire q = s.inquire q := by
  cases q with
  | stored id =>
      cases id with
      | instrument id =>
          exact congrArg (fun found => (found.map Entity.instrument).toList)
            (keyed.instruments.get?_live id)
      | listing id =>
          exact congrArg (fun found => (found.map Entity.listing).toList)
            (keyed.listings.get?_live id)
      | bid id =>
          exact congrArg (fun found => (found.map Entity.bid).toList) (keyed.bids.get?_live id)
      | ask id =>
          exact congrArg (fun found => (found.map Entity.ask).toList) (keyed.asks.get?_live id)
  | openListing instrument =>
      exact congrArg (fun found => found.toList.map Entity.listing)
        (s.openListing?_live instrument)
  | _ => exact congrArg (List.map _) (Table.search_live _ _)

-----------------------------------------------------------------------------------------
-- Writing
-----------------------------------------------------------------------------------------

/-- A write that leaves the deleted records alone is accepted or refused as before. -/
theorem Keyed.write_live (keyed : s.Keyed) {w : Write} (spares : s.Spares w)
    : s.live.write w = (s.write w).map live := by
  cases w with
  | instrument x =>
      simp only [write_instrument]
      rw [show s.live.instruments.save x = _ from keyed.instruments.save_live spares]
      cases s.instruments.save x <;> rfl
  | listing x =>
      simp only [write_listing, rival?_live]
      rw [show s.live.listings.checkVersion x = _ from keyed.listings.checkVersion_live spares,
        show s.live.listings.put x = _ from (keyed.listings.put_live spares).1.symm]
      cases s.listings.checkVersion x with
      | error e => rfl
      | ok u => cases x.offers x.instrument <;> cases s.rival? x <;> rfl
  | bid b =>
      simp only [write_bid]
      rw [show s.live.bids.save b = _ from keyed.bids.save_live spares]
      cases s.bids.save b <;> rfl
  | bids bids =>
      simp only [write_bids]
      rw [show s.live.bids.saveAll bids = _ from keyed.bids.saveAll_live spares]
      cases s.bids.saveAll bids <;> rfl
  | ask a =>
      simp only [write_ask]
      rw [show s.live.asks.save a = _ from keyed.asks.save_live spares]
      cases s.asks.save a <;> rfl
  | row row =>
      simp only [write_row, live]
      cases s.ledger.insert row <;> rfl
  | transfer closing opened =>
      simp only [write_transfer, live]
      cases s.ledger.transfer closing opened <;> rfl

/-- The deleted records stay where they are. -/
theorem Takes.deleted {w : Write} (h : s.Takes w s') (keyed : s.Keyed) (spares : s.Spares w)
    : s'.deleted = s.deleted := by
  cases h with
  | instrument newer => simp only [Store.deleted, (keyed.instruments.put_live spares).2]
  | listing newer alone => simp only [Store.deleted, (keyed.listings.put_live spares).2]
  | bid newer => simp only [Store.deleted, (keyed.bids.put_live spares).2]
  | bids newer => simp only [Store.deleted, (keyed.bids.puts_live spares).2]
  | ask newer => simp only [Store.deleted, (keyed.asks.put_live spares).2]
  | row inserted => rfl
  | transfer transferred => rfl

end Store

end DebtMarket
