import DebtMarket.Proofs.Command.Performs
import DebtMarket.Proofs.Operation.Dating
import DebtMarket.Proofs.Ownership.Chain

/-! What commands enter in the books of the market, its listings and its ledger. An instrument is
listed, issued or handed on at one time, which is entered along with it; every other command
leaves the ledger alone and at most moves a listing. If no time in the books of an instrument is
later than that of the command, then every listing stays vouched for by a row of its seller.
-/

namespace DebtMarket

namespace Instant

theorem le_trans {t t' t'' : Instant} (h : t ≤ t') (h' : t' ≤ t'') : t ≤ t'' :=
  Int.le_trans h h'

instance : IsTrans Instant (· ≤ ·) :=
  ⟨fun _ _ _ => le_trans⟩

end Instant

namespace Store

/-- What a write of a command at some time makes of the listings and of the ledger. -/
inductive Books (s : Store) (now : Instant) : Command → Store → Prop
  | listed {instrument actor row id s'} (absent : s.listings.find? id = none)
    (owned : s.ledger.active? instrument = some row) (owner : row.owner = actor.company)
    (unoffered : s.openListing? instrument = none)
    (listings : s'.listings = s.listings.put (Listing.start instrument actor now id))
    (ledger : s'.ledger = s.ledger)
    : Books s now (.createListing instrument actor) s'
  | issued {instrument owner id s'} (listings : s'.listings = s.listings)
    (inserted : s.ledger.insert (.issue instrument owner now id) = .ok s'.ledger)
    : Books s now (.recordIssuance instrument owner) s'
  | handed {instrument fromOwner toOwner reason active closing id s'}
    (listings : s'.listings = s.listings)
    (owned : s.ledger.active? instrument = some active)
    (closed : active.relinquish now = .ok closing)
    (transferred
      : s.ledger.transfer closing (.acquire instrument toOwner now reason id) = .ok s'.ledger)
    : Books s now (.transfer instrument fromOwner toOwner reason) s'
  | moved {c x target s'} (stored : s.listings.get? x.id = some x)
    (listings : s'.listings = s.listings.put (x.moveTo target now))
    (ledger : s'.ledger = s.ledger)
    : Books s now c s'
  | kept {c s'} (listings : s'.listings = s.listings) (ledger : s'.ledger = s.ledger)
    : Books s now c s'

end Store

/-- What a command enters in the books, by cases on what it does. -/
theorem Performs.books {g : Given} {s s' : Store} {c : Command} {outcome : Outcome} {w : Write}
    {notice : Option (Happening × Instant)} (h : Performs g s c outcome (some w) notice)
    (sound : s.Sound) (takes : s.Takes w s')
    : s.Books g.instant c s' := by
  cases h with
  | createListing stored owned owner unoffered =>
      obtain _ | ⟨newer, alone⟩ := takes
      have absent := sound.listings.find?_of_first rfl newer
      exact .listed absent owned (beq_iff_eq.1 owner).symm unoffered rfl rfl
  | transitionListing stored other permitted unoffered =>
      obtain _ | ⟨newer, alone⟩ := takes
      obtain rfl := Table.get?_id stored
      exact .moved stored rfl rfl
  | recordIssuance unowned =>
      obtain _ | _ | _ | _ | _ | ⟨inserted⟩ := takes
      exact .issued rfl inserted
  | transfer handed owned giver taker closed =>
      obtain _ | _ | _ | _ | _ | _ | ⟨transferred⟩ := takes
      exact .handed rfl owned closed transferred
  | _ =>
      cases takes
      exact .kept rfl rfl

namespace Store

variable {s s' : Store} {c : Command} {now : Instant} {instrument : InstrumentId}

-----------------------------------------------------------------------------------------
-- Times in the books
-----------------------------------------------------------------------------------------

/-- The times of all listings and rows are among some instants. -/
structure Dated (past : List Instant) (s : Store) : Prop where
  listings : ∀ x ∈ s.listings.rows, x.revision.createdAt ∈ past
  rows : ∀ row ∈ s.ledger.rows, row.acquiredAt ∈ past

/-- No listing and no row of an instrument is from a later time. -/
structure Early (s : Store) (instrument : InstrumentId) (time : Instant) : Prop where
  listings
    : ∀ x ∈ s.listings.rows, x.instrument = instrument → x.revision.createdAt ≤ time
  rows : ∀ row ∈ s.ledger.rowsOf instrument, row.acquiredAt ≤ time

/-- Whatever is dated precedes a time that no date is later than. -/
theorem Dated.early {past : List Instant} {time : Instant} (h : s.Dated past)
    (late : ∀ earlier ∈ past, earlier ≤ time)
    : s.Early instrument time where
  listings := fun x stored _ => late _ (h.listings x stored)
  rows := fun row member => late _ (h.rows row (Ledger.mem_rowsOf.1 member).1)

/-- What is entered in the books has the time of its command. -/
theorem Books.dated {past : List Instant} (h : s.Books now c s') (before : s.Dated past)
    (mine : c.books? ≠ none → now ∈ past)
    : s'.Dated past := by
  cases h with
  | listed absent owned owner unoffered listings ledger =>
      refine ⟨fun x stored => ?_, ledger ▸ before.rows⟩
      rw [listings] at stored
      rcases Table.mem_put stored with rfl | old
      · exact mine nofun
      · exact before.listings x old
  | issued listings inserted =>
      refine ⟨listings ▸ before.listings, fun row member => ?_⟩
      obtain ⟨-, -, ledger⟩ := Ledger.insert_eq_ok.1 inserted
      rw [ledger] at member
      rcases List.mem_append.1 member with old | new
      · exact before.rows row old
      · rw [List.mem_singleton.1 new]
        exact mine nofun
  | @handed _ _ _ _ active _ _ _ listings owned closed transferred =>
      refine ⟨listings ▸ before.listings, fun row member => ?_⟩
      obtain ⟨-, -, -, -, -, ledger⟩ := Ledger.transfer_eq_ok.1 transferred
      obtain ⟨-, rfl⟩ := Ownership.relinquish_eq_ok.1 closed
      rw [ledger] at member
      rcases List.mem_append.1 member with old | new
      · obtain ⟨row', present, rfl⟩ := List.mem_map.1 old
        split
        · exact before.rows active (Ledger.mem_rowsOf.1 (Ledger.active?_mem owned)).1
        · exact before.rows row' present
      · rw [List.mem_singleton.1 new]
        exact mine nofun
  | @moved _ y _ _ found listings ledger =>
      refine ⟨fun x stored => ?_, ledger ▸ before.rows⟩
      rw [listings] at stored
      rcases Table.mem_put stored with rfl | old
      · exact before.listings y (Table.find?_mem (Table.get?_eq_some.1 found).1)
      · exact before.listings x old
  | kept listings ledger => exact ⟨listings ▸ before.listings, ledger ▸ before.rows⟩

/-- The books of an instrument that nothing is entered for stay as early as they are: a new
listing would offer the instrument.
-/
theorem Books.early {time : Instant} (h : s.Books now c s')
    (before : s.Early instrument time)
    (offered : s'.openListing? instrument = s.openListing? instrument)
    (owned : s'.ledger.rowsOf instrument = s.ledger.rowsOf instrument)
    : s'.Early instrument time := by
  refine ⟨fun x stored same => ?_, owned ▸ before.rows⟩
  cases h with
  | listed absent owned owner unoffered listings ledger =>
      rw [listings] at stored
      rcases Table.mem_put stored with rfl | old
      · subst same
        rw [Listing.start, unoffered, openListing?, List.find?_eq_none] at offered
        refine absurd ?_ (offered _ (listings ▸ stored))
        simp [Listing.offers, Listing.start, Listing.isOpen, ListingStatus.isOpen, Revision.first,
          Revision.isDeleted]
      · exact before.listings x old same
  | @moved _ y _ _ found listings ledger =>
      rw [listings] at stored
      rcases Table.mem_put stored with rfl | old
      · have present := Table.find?_mem (Table.get?_eq_some.1 found).1
        exact before.listings y present same
      · exact before.listings x old same
  | issued listings | handed listings | kept listings =>
      exact before.listings x (listings ▸ stored) same

end Store

-----------------------------------------------------------------------------------------
-- Listings and the rows of their sellers
-----------------------------------------------------------------------------------------

/-- A row vouches for a listing: the seller owned the instrument when it was listed. -/
structure Ownership.Vouches (row : Ownership) (x : Listing) : Prop where
  owner : row.owner = x.seller
  acquired : row.acquiredAt ≤ x.revision.createdAt
  relinquished : ∀ last, row.relinquishedAt = some last → x.revision.createdAt ≤ last

namespace Store

variable {s s' : Store} {c : Command} {now : Instant}

/-- Every listing, deleted or not, is vouched for by a row of its instrument. -/
def Vouched (s : Store) : Prop :=
  ∀ x ∈ s.listings.rows, ∃ row ∈ s.ledger.rowsOf x.instrument, row.Vouches x

/-- Every listing stays vouched for: a new one by the open row of its seller, and one whose row
is closed by the closed row, as it was listed before that.
-/
theorem Books.vouched (h : s.Books now c s') (chained : s.ledger.Chained) (before : s.Vouched)
    (early : ∀ instrument, c.books? = some instrument → s.Early instrument now)
    : s'.Vouched := by
  intro x stored
  cases h with
  | @listed _ _ row _ _ absent owned owner unoffered listings ledger =>
      rw [listings] at stored
      rw [ledger]
      rcases Table.mem_put stored with rfl | old
      · have member := Ledger.active?_mem owned
        refine ⟨row, member, owner, (early _ rfl).rows row member, fun last closed => ?_⟩
        rw [Ownership.isActive_iff.1 (Ledger.active?_isActive owned)] at closed
        cases closed
      · exact before x old
  | issued listings inserted =>
      obtain ⟨row, member, vouches⟩ := before x (listings ▸ stored)
      obtain ⟨-, -, ledger⟩ := Ledger.insert_eq_ok.1 inserted
      refine ⟨row, ?_, vouches⟩
      rw [ledger, Ledger.rowsOf_append]
      exact List.mem_append_left _ member
  | @handed instrument _ _ _ active closing _ _ listings owned closed transferred =>
      rw [listings] at stored
      obtain ⟨row, member, vouches⟩ := before x stored
      by_cases other : instrument = x.instrument
      · subst other
        obtain ⟨-, -, same, -, -, ledger⟩ := Ledger.transfer_eq_ok.1 transferred
        have replaced : (if row.id = closing.id then closing else row)
            ∈ s'.ledger.rowsOf x.instrument := by
          have same : closing.instrument = x.instrument := same
          rw [ledger, Ledger.rowsOf_append, ← same, Ledger.rowsOf_replace_self]
          exact List.mem_append_left _ (List.mem_map_of_mem (same ▸ member))
        refine ⟨_, replaced, ?_⟩
        split
        · next mine =>
            obtain ⟨-, rfl⟩ := Ownership.relinquish_eq_ok.1 closed
            obtain rfl : row = active :=
              List.inj_on_of_nodup_map (chained x.instrument).distinct member
                (Ledger.active?_mem owned) mine
            refine ⟨vouches.owner, vouches.acquired, fun last closed => ?_⟩
            cases closed
            exact (early _ rfl).listings x stored rfl
        · exact vouches
      · rw [Ledger.rowsOf_transfer_other transferred other]
        exact ⟨row, member, vouches⟩
  | @moved _ y _ _ found listings ledger =>
      rw [listings] at stored
      rw [ledger]
      rcases Table.mem_put stored with rfl | old
      · obtain ⟨row, member, vouches⟩ :=
          before y (Table.find?_mem (Table.get?_eq_some.1 found).1)
        exact ⟨row, member, vouches.owner, vouches.acquired, vouches.relinquished⟩
      · exact before x old
  | kept listings ledger =>
      rw [ledger]
      exact before x (listings ▸ stored)

end Store

end DebtMarket
