import Mathlib.Tactic.MkIffOfInductiveProp
import DebtMarket.Proofs.Market.Run
import DebtMarket.Proofs.Measures
import DebtMarket.Proofs.Store.Entities
import DebtMarket.Proofs.Store.Rivals

/-! Searches. A search finds the live records that meet every criterion that is set, each once
and oldest first. Amounts are compared as numbers, dates and instants by the calendar and the
clock, and a range holds both its ends. The lists of the records of an issuer, an instrument or
a listing are searches with one criterion, and so is the open listing of an instrument if no two
listings offer it.
-/

namespace DebtMarket

-----------------------------------------------------------------------------------------
-- Criteria
-----------------------------------------------------------------------------------------

namespace Criterion

variable {α β : Type}

/-- What a criterion asks for, if it is set. -/
def Asks (criterion : Option α) (a : α) : Prop :=
  ∀ wanted ∈ criterion, a = wanted

/-- A list of identifiers has one of them, or asks for nothing. -/
def Lists (allowed : List α) (a : α) : Prop :=
  allowed = [] ∨ a ∈ allowed

/-- What is measured lies in a range that holds both its ends, as far as they are set. -/
@[mk_iff]
structure Between [LE β] (measure : α → β) (least greatest : Option α) (a : α) : Prop where
  least : ∀ bound ∈ least, measure bound ≤ measure a
  greatest : ∀ bound ∈ greatest, measure a ≤ measure bound

/-- The ends of a range are set and the wrong way round. -/
def Inverted [LT β] (measure : α → β) (least greatest : Option α) : Prop :=
  ∃ bound ∈ least, ∃ bound' ∈ greatest, measure bound' < measure bound

/-- Nothing lies in a range whose ends are the wrong way round. -/
theorem Between.not_inverted [Preorder β] {measure : α → β} {least greatest : Option α} {a : α}
    (h : Between measure least greatest a)
    : ¬Inverted measure least greatest := by
  rintro ⟨bound, set, bound', set', crossed⟩
  exact (crossed.trans_le ((h.least bound set).trans (h.greatest bound' set'))).false

theorem meets_iff [BEq α] [LawfulBEq α] {criterion : Option α} {a : α}
    : meets criterion (a == ·) = true ↔ Asks criterion a := by
  cases criterion with
  | none => simp [meets, Asks]
  | some wanted => simp [meets, Asks]

theorem admits_iff [BEq α] [LawfulBEq α] {allowed : List α} {a : α}
    : admits allowed a = true ↔ Lists allowed a := by
  simp [admits, Lists]

/-- A rank lies in a range exactly if what it ranks does. -/
theorem within_iff [LE β] {rank : α → Int} {measure : α → β}
    (ranked : ∀ a b, rank a ≤ rank b ↔ measure a ≤ measure b) {least greatest : Option α} {a : α}
    : within (rank a) (least.map rank) (greatest.map rank) = true
      ↔ Between measure least greatest a := by
  rw [between_iff, within, Bool.and_eq_true]
  cases least <;> cases greatest <;> simp [ranked]

theorem within_value {least greatest : Option Decimal} {d : Decimal}
    : within d.value (least.map Decimal.value) (greatest.map Decimal.value) = true
      ↔ Between Decimal.number least greatest d :=
  within_iff fun _ _ => Decimal.value_le_iff

theorem within_date {least greatest : Option Date} {d : Date}
    : within d.rank (least.map Date.rank) (greatest.map Date.rank) = true
      ↔ Between Date.calendar least greatest d :=
  within_iff fun _ _ => Date.rank_le_iff

theorem within_instant {least greatest : Option Instant} {t : Instant}
    : within t.rank (least.map Instant.rank) (greatest.map Instant.rank) = true
      ↔ Between Instant.reading least greatest t :=
  within_iff fun _ _ => Instant.rank_le_iff

end Criterion

open Criterion

-----------------------------------------------------------------------------------------
-- Filters
-----------------------------------------------------------------------------------------

namespace InstrumentFilter

/-- An instrument meets every criterion that is set. -/
@[mk_iff]
structure Meets (f : InstrumentFilter) (x : Instrument) : Prop where
  status : Asks f.status x.status
  maturityStatus : Asks f.maturityStatus x.maturityStatus
  currency : Asks f.currency x.currency
  faceValue : Between Decimal.number f.minFaceValue f.maxFaceValue x.faceValue.decimal
  maturityPayment
    : Between Decimal.number f.minMaturityPayment f.maxMaturityPayment x.maturityPayment.decimal
  maturityDate : Between Date.calendar f.maturityDateAfter f.maturityDateBefore x.maturityDate
  createdAt : Between Instant.reading f.createdAtAfter f.createdAtBefore x.revision.createdAt
  issuer : Lists f.issuers x.issuer
  createdBy : Lists f.createdBy x.createdBy

/-- A range of the filter has its ends the wrong way round. -/
inductive HasInverted (f : InstrumentFilter) : Prop
  | faceValue (crossed : Inverted Decimal.number f.minFaceValue f.maxFaceValue)
  | maturityPayment
    (crossed : Inverted Decimal.number f.minMaturityPayment f.maxMaturityPayment)
  | maturityDate (crossed : Inverted Date.calendar f.maturityDateAfter f.maturityDateBefore)
  | createdAt (crossed : Inverted Instant.reading f.createdAtAfter f.createdAtBefore)

/-- The filter without a criterion. -/
def unset : InstrumentFilter :=
  {
    status := none,
    maturityStatus := none,
    currency := none,
    minFaceValue := none,
    maxFaceValue := none,
    minMaturityPayment := none,
    maxMaturityPayment := none,
    maturityDateAfter := none,
    maturityDateBefore := none,
    createdAtAfter := none,
    createdAtBefore := none,
    issuers := [],
    createdBy := []
  }

theorem accepts_iff (f : InstrumentFilter) (x : Instrument) : f.accepts x = true ↔ f.Meets x := by
  simp only [accepts, Bool.and_eq_true, and_assoc, Criterion.meets_iff, admits_iff, within_value,
    within_date, within_instant, meets_iff]

theorem Meets.not_inverted {f : InstrumentFilter} {x : Instrument} (h : f.Meets x)
    : ¬f.HasInverted := by
  intro inverted
  cases inverted with
  | faceValue crossed => exact h.faceValue.not_inverted crossed
  | maturityPayment crossed => exact h.maturityPayment.not_inverted crossed
  | maturityDate crossed => exact h.maturityDate.not_inverted crossed
  | createdAt crossed => exact h.createdAt.not_inverted crossed

end InstrumentFilter

namespace ListingFilter

/-- A listing meets every criterion that is set. -/
@[mk_iff]
structure Meets (f : ListingFilter) (x : Listing) : Prop where
  status : Asks f.status x.status
  instrument : Asks f.instrument x.instrument
  seller : Lists f.sellers x.seller
  creator : Lists f.creators x.creator

/-- The filter without a criterion. -/
def unset : ListingFilter :=
  { status := none, instrument := none, sellers := [], creators := [] }

theorem accepts_iff (f : ListingFilter) (x : Listing) : f.accepts x = true ↔ f.Meets x := by
  simp only [accepts, Bool.and_eq_true, and_assoc, Criterion.meets_iff, admits_iff, meets_iff]

end ListingFilter

namespace BidFilter

/-- A bid meets every criterion that is set. -/
@[mk_iff]
structure Meets (f : BidFilter) (b : Bid) : Prop where
  listing : Asks f.listing b.listing
  status : Asks f.status b.status
  bidder : Lists f.bidders b.bidder
  bidderUser : Lists f.bidderUsers b.bidderUser
  currency : Asks f.currency b.currency
  amount : Between Decimal.number f.minAmount f.maxAmount b.amount.decimal

/-- The filter without a criterion. -/
def unset : BidFilter :=
  {
    listing := none,
    status := none,
    bidders := [],
    bidderUsers := [],
    currency := none,
    minAmount := none,
    maxAmount := none
  }

theorem accepts_iff (f : BidFilter) (b : Bid) : f.accepts b = true ↔ f.Meets b := by
  simp only [accepts, Bool.and_eq_true, and_assoc, Criterion.meets_iff, admits_iff, within_value,
    meets_iff]

end BidFilter

namespace AskFilter

/-- An ask meets every criterion that is set. -/
@[mk_iff]
structure Meets (f : AskFilter) (a : Ask) : Prop where
  listing : Asks f.listing a.listing
  status : Asks f.status a.status
  asker : Lists f.askers a.asker
  askerUser : Lists f.askerUsers a.askerUser
  currency : Asks f.currency a.currency
  mode : Asks f.mode a.mode
  binding : Asks f.binding a.binding
  amount : Between Decimal.number f.minAmount f.maxAmount a.amount.decimal

/-- The filter without a criterion. -/
def unset : AskFilter :=
  {
    listing := none,
    status := none,
    askers := [],
    askerUsers := [],
    currency := none,
    mode := none,
    binding := none,
    minAmount := none,
    maxAmount := none
  }

theorem accepts_iff (f : AskFilter) (a : Ask) : f.accepts a = true ↔ f.Meets a := by
  simp only [accepts, Bool.and_eq_true, and_assoc, Criterion.meets_iff, admits_iff, within_value,
    meets_iff]

end AskFilter

-----------------------------------------------------------------------------------------
-- What is found
-----------------------------------------------------------------------------------------

namespace Table

variable {α : Type} {kind : IdKind} [Stored α kind] {t : Table α}

/-- The live records of a table that are wanted are found, each once and oldest first. -/
structure Finds (t : Table α) (wanted : α → Prop) (found : List α) : Prop where
  exact : ∀ a, a ∈ found ↔ a ∈ t.rows ∧ isLive a = true ∧ wanted a
  once : (found.map Stored.id).Nodup
  inOrder
    : found.Pairwise fun a b => (Stored.revision a).createdAt ≤ (Stored.revision b).createdAt

theorem Keyed.finds (h : t.Keyed) {test : α → Bool} {wanted : α → Prop}
    (tests : ∀ a, test a = true ↔ wanted a)
    : t.Finds wanted (t.search test) := by
  have same := (arranges_inOrderOf (fun a => (Stored.revision a).createdAt)
    (t.rows.filter fun a => isLive a && test a)).same
  constructor
  · intro a
    rw [search, same.mem_iff, List.mem_filter, Bool.and_eq_true, tests]
  · rw [search, (same.map Stored.id).nodup_iff]
    exact (List.filter_sublist.map Stored.id).nodup h
  · exact t.search_inOrder test

/-- Nothing is found if nothing can be wanted. -/
theorem Finds.eq_nil {wanted : α → Prop} {found : List α} (h : t.Finds wanted found)
    (unwanted : ∀ a, ¬wanted a)
    : found = [] :=
  List.eq_nil_iff_forall_not_mem.2 fun a member => unwanted a ((h.exact a).1 member).2.2

/-- If one record at most is live and meets a test, then it is all that is found. -/
theorem search_eq_find? {test found : α → Bool} (same : ∀ a, (isLive a && test a) = found a)
    (single : (t.rows.filter found).length ≤ 1)
    : t.search test = (t.rows.find? found).toList := by
  rw [search, funext same, filter_eq_find? single]
  refine inOrderOf_of_pairwise ?_
  cases t.rows.find? found with
  | none => exact .nil
  | some a => exact List.pairwise_singleton _ _

/-- Searches for the same come to the same. -/
theorem search_congr {test test' : α → Bool} (same : ∀ a, test a = test' a)
    : t.search test = t.search test' := by
  rw [funext same]

end Table

namespace Store

/-- The lists of the records of an issuer, an instrument or a listing are searches with one
criterion, and so is the open listing of an instrument if no two listings offer it.
-/
structure ListsAgree (s : Store) : Prop where
  issuedBy
    : ∀ issuer,
        s.issuedBy issuer = s.searchInstruments { InstrumentFilter.unset with issuers := [issuer] }
  listingsFor
    : ∀ instrument,
        s.listingsFor instrument
          = s.searchListings { ListingFilter.unset with instrument := some instrument }
  bidsFor
    : ∀ listing, s.bidsFor listing = s.searchBids { BidFilter.unset with listing := some listing }
  asksFor
    : ∀ listing, s.asksFor listing = s.searchAsks { AskFilter.unset with listing := some listing }
  openListing
    : s.Unrivalled → ∀ instrument,
        s.searchListings
          { ListingFilter.unset with instrument := some instrument, status := some .opened }
          = (s.openListing? instrument).toList

variable {s : Store}

/-- A listing offers an instrument exactly if it is live and meets the filter that asks for the
instrument and for open listings.
-/
theorem accepts_offer (instrument : InstrumentId) (x : Listing)
    : (Table.isLive x && ListingFilter.accepts
        { ListingFilter.unset with instrument := some instrument, status := some .opened } x)
      = x.offers instrument := by
  rw [Bool.eq_iff_iff]
  simp only [ListingFilter.accepts, ListingFilter.unset, meets, admits, Listing.offers,
    Option.all_some, List.isEmpty_nil, Bool.true_or, Bool.and_true, Bool.and_eq_true, beq_iff_eq,
    Listing.isOpen_iff]
  constructor
  · rintro ⟨live, status, same⟩
    exact ⟨⟨same, status⟩, live⟩
  · rintro ⟨⟨same, status⟩, live⟩
    exact ⟨live, status, same⟩

theorem Keyed.listsAgree (keyed : s.Keyed) : s.ListsAgree := by
  constructor
  · intro issuer
    refine Table.search_congr fun x => ?_
    simp [InstrumentFilter.accepts, InstrumentFilter.unset, meets, admits, within, beq_eq_decide]
  · intro instrument
    refine Table.search_congr fun x => ?_
    simp [ListingFilter.accepts, ListingFilter.unset, meets, admits]
  · intro listing
    refine Table.search_congr fun b => ?_
    simp [BidFilter.accepts, BidFilter.unset, meets, admits, within]
  · intro listing
    refine Table.search_congr fun a => ?_
    simp [AskFilter.accepts, AskFilter.unset, meets, admits, within]
  · intro unrivalled instrument
    refine Table.search_eq_find? (accepts_offer instrument) ?_
    refine length_filter_le_one keyed.listings fun x stored y stored' offers offers' => ?_
    exact unrivalled x stored y stored' instrument offers offers'

/-- Every search finds the live records that meet the filter, each once and oldest first, and
nothing if a range of the filter has its ends the wrong way round; and the lists of the records
of an issuer, an instrument or a listing tell the same as the searches for them.
-/
theorem searches_exact (keyed : s.Keyed)
    : (∀ f, s.instruments.Finds f.Meets (s.searchInstruments f)
        ∧ (f.HasInverted → s.searchInstruments f = []))
      ∧ (∀ f, s.listings.Finds f.Meets (s.searchListings f))
      ∧ (∀ f, s.bids.Finds f.Meets (s.searchBids f)
          ∧ (Inverted Decimal.number f.minAmount f.maxAmount → s.searchBids f = []))
      ∧ (∀ f, s.asks.Finds f.Meets (s.searchAsks f)
          ∧ (Inverted Decimal.number f.minAmount f.maxAmount → s.searchAsks f = []))
      ∧ s.ListsAgree := by
  refine ⟨fun f => ?_, fun f => ?_, fun f => ?_, fun f => ?_, keyed.listsAgree⟩
  · have finds := keyed.instruments.finds f.accepts_iff
    exact ⟨finds, fun inverted => finds.eq_nil fun x meets => meets.not_inverted inverted⟩
  · exact keyed.listings.finds f.accepts_iff
  · have finds := keyed.bids.finds f.accepts_iff
    exact ⟨finds, fun inverted => finds.eq_nil fun b meets => meets.amount.not_inverted inverted⟩
  · have finds := keyed.asks.finds f.accepts_iff
    exact ⟨finds, fun inverted => finds.eq_nil fun a meets => meets.amount.not_inverted inverted⟩

namespace Sample

/-- A bid of an amount under a number, placed some seconds after the year began. -/
def bidOf (n : Nat) (amount : Amount) (seconds : Fin 86400) : Bid :=
  let since : Instant :=
    {
      Market.Sample.newYear with
      second := seconds,
      second_lt := seconds.isLt,
      leap_mem := nofun
    }
  Bid.place ⟨⟨0⟩⟩ ⟨⟨⟨1⟩⟩, ⟨⟨1⟩⟩, .buyer⟩ amount Market.Sample.euro none since
    ⟨⟨BitVec.ofNat 128 n⟩⟩

/-- The smallest whole amount, spelled with a decimal place. -/
def onePlace : Amount :=
  ⟨⟨false, 10, 1, by decide, by decide⟩, by decide⟩

/-- A store of bids, of which the one that was placed later is stored first and another one was
marked as deleted.
-/
def bidden : Store :=
  let deleted := bidOf 2 Market.Sample.one 5
  {
    Store.empty with
    bids :=
      ⟨
        [
          bidOf 0 onePlace 9,
          bidOf 1 Market.Sample.one 4,
          deleted.tombstone deleted.revision.createdAt
        ]
      ⟩
  }

/-- Bids of just one. -/
def exactly : BidFilter :=
  {
    BidFilter.unset with
    minAmount := some Market.Sample.one.decimal,
    maxAmount := some onePlace.decimal
  }

end Sample

/-- Bids of the same amount in different places are found, and the deleted one is not. -/
theorem searches_exact_equal
    : Sample.bidden.bids.Finds Sample.exactly.Meets (Sample.bidden.searchBids Sample.exactly)
      ∧ ∀ b ∈ Sample.bidden.bids.rows,
          b ∈ Sample.bidden.searchBids Sample.exactly ↔ b.revision.isDeleted = false := by
  have once : (Sample.bidden.bids.rows.map Stored.id).Nodup := by decide
  have keyed : Sample.bidden.Keyed := ⟨.nil, .nil, once, .nil⟩
  obtain ⟨-, -, bids, -, -⟩ := searches_exact keyed
  obtain ⟨finds, -⟩ := bids Sample.exactly
  have accepted : ∀ b ∈ Sample.bidden.bids.rows, Sample.exactly.accepts b = true := by decide
  refine ⟨finds, fun b stored => ?_⟩
  rw [finds.exact, ← BidFilter.accepts_iff, and_iff_right stored,
    and_iff_left (accepted b stored), Table.isLive, Bool.not_eq_true']
  rfl

end Store

end DebtMarket
