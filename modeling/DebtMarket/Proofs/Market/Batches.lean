import DebtMarket.Proofs.Market.Run
import DebtMarket.Proofs.Market.Writing

/-! Bids that are saved together. The versions of all of them are checked before any is stored,
against the table as it was; for different bids this comes to the same as saving them one after
another, where each is checked against a table that holds those before it. So the order in
which they are handed in does not matter unless one is refused, and then none is stored.
-/

namespace DebtMarket

/-- What is checked in turn is refused for the first that fails its check, by induction on it. -/
theorem forM_eq_error_iff {ε α : Type} {check : α → Except ε Unit} {as : List α} {e : ε}
    : as.forM check = .error e
      ↔ ∃ earlier a later, as = earlier ++ a :: later ∧ (∀ b ∈ earlier, check b = .ok ())
        ∧ check a = .error e := by
  induction as with
  | nil => simp [pure, Except.pure]
  | cons a rest ih =>
      rw [List.forM_eq_forM] at ih ⊢
      rw [List.forM_cons]
      constructor
      · intro refused
        cases first : check a with
        | error refusal =>
            rw [first] at refused
            exact ⟨[], a, rest, rfl, nofun, first.trans refused⟩
        | ok u =>
            rw [first] at refused
            obtain ⟨earlier, b, later, rfl, passed, stale⟩ := ih.1 refused
            exact ⟨a :: earlier, b, later, rfl, List.forall_mem_cons.2 ⟨first, passed⟩, stale⟩
      · rintro ⟨earlier, b, later, split, passed, stale⟩
        rcases List.cons_eq_append_iff.1 split with ⟨rfl, same⟩ | ⟨earlier, rfl, rfl⟩
        · obtain ⟨rfl, rfl⟩ := List.cons.inj same
          rw [stale]
          rfl
        · obtain ⟨first, passed⟩ := List.forall_mem_cons.1 passed
          rw [first]
          exact ih.2 ⟨earlier, b, later, rfl, passed, stale⟩

namespace Table

/-- Two tables hold the same records, in whatever order, and find the same under every
identifier.
-/
structure Alike {α : Type} {kind : IdKind} [Stored α kind] (t t' : Table α) : Prop where
  rows : t'.rows.Perm t.rows
  found : ∀ id : Id kind, t'.find? id = t.find? id

variable {α : Type} {kind : IdKind} [Stored α kind] {t t' : Table α} {a b : α}

-----------------------------------------------------------------------------------------
-- The order in which records are put in
-----------------------------------------------------------------------------------------

/-- A record is put in alike, in whatever order the others are. -/
theorem put_perm (same : t'.rows.Perm t.rows) (a : α) : (t'.put a).rows.Perm (t.put a).rows := by
  have taken : (t'.rows.any fun b => Stored.id b == Stored.id a)
      = t.rows.any fun b => Stored.id b == Stored.id a := by
    rw [Bool.eq_iff_iff, List.any_eq_true, List.any_eq_true]
    simp only [same.mem_iff]
  rw [put, put, taken]
  split
  · exact same.map _
  · exact same.append_right [a]

/-- Several records are put in alike, in whatever order the others are: by induction on them. -/
theorem puts_perm (same : t'.rows.Perm t.rows) (records : List α)
    : (records.foldl put t').rows.Perm (records.foldl put t).rows := by
  induction records generalizing t t' with
  | nil => exact same
  | cons a rest ih => exact ih (put_perm same a)

/-- A new record and one that replaces another are put in independently of each other. -/
theorem put_comm_of_none {c : α} (apart : Stored.id a ≠ Stored.id b)
    (new : t.find? (Stored.id a) = none) (stored : t.find? (Stored.id b) = some c)
    : ((t.put a).put b).rows = ((t.put b).put a).rows := by
  rw [← find?_put_other apart] at stored
  rw [← find?_put_other apart.symm] at new
  rw [put_rows_of_some stored, put_rows_of_none new]
  rw [find?_put_other apart] at stored
  rw [find?_put_other apart.symm] at new
  rw [put_rows_of_none new, put_rows_of_some stored, List.map_append, List.map_singleton,
    if_neg apart]

/-- Two different records may be put in in either order, by cases on what each replaces. -/
theorem put_comm (t : Table α) (apart : Stored.id a ≠ Stored.id b)
    : ((t.put a).put b).rows.Perm ((t.put b).put a).rows := by
  cases first : t.find? (Stored.id a) with
  | none =>
      cases second : t.find? (Stored.id b) with
      | none =>
          have first' : (t.put b).find? (Stored.id a) = none := by
            rw [find?_put_other apart.symm, first]
          have second' : (t.put a).find? (Stored.id b) = none := by
            rw [find?_put_other apart, second]
          rw [put_rows_of_none second', put_rows_of_none first', put_rows_of_none first,
            put_rows_of_none second, List.append_assoc, List.append_assoc]
          exact (List.Perm.swap b a []).append_left t.rows
      | some c => exact .of_eq (put_comm_of_none apart first second)
  | some c =>
      cases second : t.find? (Stored.id b) with
      | none => exact .of_eq (put_comm_of_none apart.symm second first).symm
      | some d =>
          have first' : (t.put b).find? (Stored.id a) = some c := by
            rw [find?_put_other apart.symm, first]
          have second' : (t.put a).find? (Stored.id b) = some d := by
            rw [find?_put_other apart, second]
          rw [put_rows_of_some second', put_rows_of_some first', put_rows_of_some first,
            put_rows_of_some second, List.map_map, List.map_map]
          refine .of_eq (List.map_congr_left fun x _ => ?_)
          -- a record has the identifier of one of the two at most
          by_cases ofA : Stored.id x = Stored.id a
          · simp [ofA, apart]
          · by_cases ofB : Stored.id x = Stored.id b
            · simp [ofB, apart.symm]
            · simp [ofA, ofB]

/-- Different records may be put in in any order, by induction on how one order is made from
the other.
-/
theorem puts_comm {records order : List α} (once : (records.map Stored.id).Nodup)
    (same : order.Perm records) (t : Table α)
    : (order.foldl put t).rows.Perm (records.foldl put t).rows := by
  induction same generalizing t with
  | nil => exact .refl _
  | cons a _ ih => exact ih (List.nodup_cons.1 once).2 (t.put a)
  | swap a b rest =>
      have apart : Stored.id a ≠ Stored.id b := by
        intro equal
        exact (List.nodup_cons.1 once).1 (equal ▸ List.mem_cons_self)
      exact puts_perm (put_comm t apart.symm) rest
  | trans _ later ih ih' =>
      have once' := (later.map Stored.id).nodup_iff.2 once
      exact (ih once' t).trans (ih' once t)

/-- Different records that are put in in another order make a table alike. -/
theorem alike_puts {records order : List α} (once : (records.map Stored.id).Nodup)
    (same : order.Perm records) (t : Table α)
    : (records.foldl put t).Alike (order.foldl put t) := by
  refine ⟨puts_comm once same t, fun id => ?_⟩
  by_cases among : ∃ a ∈ records, Stored.id a = id
  · obtain ⟨a, member, rfl⟩ := among
    have once' := (same.map Stored.id).nodup_iff.2 once
    rw [find?_puts_mem once member, find?_puts_mem once' (same.mem_iff.2 member)]
  · have other : ∀ a ∈ records, Stored.id a ≠ id := fun a member equal =>
      among ⟨a, member, equal⟩
    rw [find?_puts_other other, find?_puts_other fun a member => other a (same.mem_iff.1 member)]

-----------------------------------------------------------------------------------------
-- Saving several records
-----------------------------------------------------------------------------------------

/-- A record may be saved before others are that are different from it: these are checked
against the same records as before.
-/
theorem saveAll_cons {rest : List α} (apart : Stored.id a ∉ rest.map Stored.id)
    : t.saveAll (a :: rest) = t.save a >>= fun t => t.saveAll rest := by
  have checked : rest.forM (t.put a).checkVersion = rest.forM t.checkVersion := by
    refine checkVersions_congr fun b member => checkVersion_congr (find?_put_other ?_)
    intro equal
    exact apart (equal ▸ List.mem_map_of_mem member)
  simp only [List.forM_eq_forM] at checked
  simp only [saveAll_eq, save_eq, List.forM_eq_forM, List.forM_cons, bind_assoc, pure_bind, checked,
    List.foldl_cons]

/-- Several records are refused with what is said against the first that is too old. -/
theorem saveAll_eq_error {records : List α} {e : StoreError}
    : t.saveAll records = .error e
      ↔ ∃ earlier a later, records = earlier ++ a :: later
        ∧ (∀ b ∈ earlier, t.checkVersion b = .ok ()) ∧ t.checkVersion a = .error e := by
  rw [← forM_eq_error_iff, saveAll_eq]
  cases records.forM t.checkVersion with
  | error refusal => simp [bind, Except.bind]
  | ok u => simp [bind, Except.bind, pure, Except.pure]

end Table

namespace Market

/-- The market with another table of bids. -/
def withBids (m : Market) (t : Table Bid) : Market :=
  { m with store := { m.store with bids := t } }

/-- What becomes of a market, and of the request, when bids are saved one after another until
one is refused.
-/
def savingEach (m : Market) : List Bid → Except StoreError Unit × Market
  | [] => (.ok (), m)
  | b :: rest =>
      match m.write (.bid b) with
      | (.ok (), m) => m.savingEach rest
      | (.error e, m) => (.error e, m)

/-- Another order of the same bids is saved as well, one after another as well as together, and
leaves the same bids and all else as it is.
-/
structure SavesAlike (m : Market) (order : List Bid) (m' : Market) : Prop where
  together : ∃ t, m'.store.bids.Alike t ∧ m.write (.bids order) = (.ok (), m'.withBids t)
  each : m.savingEach order = m.write (.bids order)

/-- A bid is the first of several that is refused on its own, because of its version. -/
inductive FirstStale (m : Market) : List Bid → StoreError → Prop
  | intro {earlier b later stored}
    (passed : ∀ a ∈ earlier, (m.write (.bid a)).1 = .ok ())
    (found : m.store.bids.find? b.id = some stored)
    (refused
      : (m.write (.bid b)).1
        = .error
            (.versionConflict "Bid" (toString b.id) b.revision.version stored.revision.version))
    : FirstStale m (earlier ++ b :: later)
        (.versionConflict "Bid" (toString b.id) b.revision.version stored.revision.version)

variable {m m' : Market} {bids order : List Bid} {e : StoreError}

theorem write_bid (m : Market) (b : Bid)
    : m.write (.bid b)
      = match m.store.bids.save b with
        | .ok t => (.ok (), m.withBids t)
        | .error e => (.error e, m) := by
  rw [write_eq, Store.write_bid]
  cases m.store.bids.save b <;> rfl

theorem write_bids (m : Market) (bids : List Bid)
    : m.write (.bids bids)
      = match m.store.bids.saveAll bids with
        | .ok t => (.ok (), m.withBids t)
        | .error e => (.error e, m) := by
  rw [write_eq, Store.write_bids]
  cases m.store.bids.saveAll bids <;> rfl

/-- Whether a bid is saved depends on its version alone. -/
theorem write_bid_answer (m : Market) (b : Bid)
    : (m.write (.bid b)).1 = m.store.bids.checkVersion b := by
  rw [write_bid, Table.save_eq]
  cases m.store.bids.checkVersion b <;> rfl

theorem write_bids_eq_ok
    : m.write (.bids bids) = (.ok (), m')
      ↔ ∃ t, m.store.bids.saveAll bids = .ok t ∧ m' = m.withBids t := by
  rw [write_bids]
  cases m.store.bids.saveAll bids with
  | error e => simp
  | ok t => simp [eq_comm]

theorem write_bids_eq_error
    : m.write (.bids bids) = (.error e, m') ↔ m.store.bids.saveAll bids = .error e ∧ m' = m := by
  rw [write_bids]
  cases m.store.bids.saveAll bids with
  | error e' => simp [eq_comm]
  | ok t => simp

-----------------------------------------------------------------------------------------
-- Together and one after another
-----------------------------------------------------------------------------------------

/-- Different bids that are saved together are saved one after another, by induction on them. -/
theorem savingEach_of_ok (once : (bids.map Bid.id).Nodup)
    (saved : m.write (.bids bids) = (.ok (), m'))
    : m.savingEach bids = (.ok (), m') := by
  induction bids generalizing m with
  | nil =>
      rw [← saved]
      rfl
  | cons b rest ih =>
      obtain ⟨apart, once⟩ := List.nodup_cons.1 once
      obtain ⟨t, stored, rfl⟩ := write_bids_eq_ok.1 saved
      rw [Table.saveAll_cons apart, except_bind_eq_ok] at stored
      obtain ⟨t₁, first, others⟩ := stored
      rw [savingEach, write_bid, first]
      exact ih once (write_bids_eq_ok.2 ⟨t, others, rfl⟩)

/-- Different bids that are refused together are refused for the same reason when they are saved
one after another, by induction on them.
-/
theorem savingEach_of_error (once : (bids.map Bid.id).Nodup)
    (refused : m.store.bids.saveAll bids = .error e)
    : (m.savingEach bids).1 = .error e := by
  induction bids generalizing m with
  | nil => cases refused
  | cons b rest ih =>
      obtain ⟨apart, once⟩ := List.nodup_cons.1 once
      rw [Table.saveAll_cons apart] at refused
      rw [savingEach, write_bid]
      cases first : m.store.bids.save b with
      | error e' =>
          rw [first] at refused
          cases refused
          rfl
      | ok t =>
          rw [first] at refused
          exact ih once refused

/-- Bids in another order are saved alike. -/
theorem savesAlike (once : (bids.map Bid.id).Nodup)
    (saved : m.write (.bids bids) = (.ok (), m')) (same : order.Perm bids)
    : m.SavesAlike order m' := by
  obtain ⟨t, stored, rfl⟩ := write_bids_eq_ok.1 saved
  obtain ⟨newer, rfl⟩ := Table.saveAll_eq_ok.1 stored
  have stored' : m.store.bids.saveAll order = .ok (order.foldl Table.put m.store.bids) :=
    Table.saveAll_eq_ok.2 ⟨fun b member => newer b (same.mem_iff.1 member), rfl⟩
  have saved' := write_bids_eq_ok.2 ⟨_, stored', rfl⟩
  have once' : (order.map Bid.id).Nodup := (same.map Bid.id).nodup_iff.2 once
  exact {
    together := ⟨_, Table.alike_puts once same m.store.bids, saved'⟩
    each := (savingEach_of_ok once' saved').trans saved'.symm
  }

/-- Bids are refused together with what is said against the first that is refused alone. -/
theorem firstStale (refused : m.store.bids.saveAll bids = .error e) : m.FirstStale bids e := by
  obtain ⟨earlier, b, later, rfl, passed, stale⟩ := Table.saveAll_eq_error.1 refused
  simp only [← write_bid_answer] at passed
  obtain ⟨stored, found, -, rfl⟩ := Table.checkVersion_eq_error.1 stale
  exact .intro passed found ((write_bid_answer m b).trans stale)

/-- Different bids are saved together exactly if they are all saved one after another, and then
the same bids are stored, in whatever order they are handed in. Otherwise nothing is stored, and
what is said against the first bid that is refused on its own is said against all of them.
-/
theorem bids_saved_together (m : Market) (bids : List Bid) (once : (bids.map Bid.id).Nodup)
    : match m.write (.bids bids) with
      | (.ok (), m') =>
          m.savingEach bids = (.ok (), m') ∧ ∀ order, order.Perm bids → m.SavesAlike order m'
      | (.error e, m') =>
          (m.savingEach bids).1 = .error e ∧ m.FirstStale bids e ∧ m' = m := by
  rcases answer : m.write (.bids bids) with ⟨e | ⟨⟩, m'⟩
  · obtain ⟨refused, rfl⟩ := write_bids_eq_error.1 answer
    exact ⟨savingEach_of_error once refused, firstStale refused, rfl⟩
  · exact ⟨savingEach_of_ok once answer, fun order same => savesAlike once answer same⟩

namespace Sample

/-- A bid under a number that has just been placed. -/
def numbered (n : Nat) : Bid :=
  Bid.place ⟨⟨0⟩⟩ ⟨⟨⟨2⟩⟩, ⟨⟨2⟩⟩, .buyer⟩ one euro none newYear ⟨⟨BitVec.ofNat 128 n⟩⟩

/-- A market with a bid that is live and one that was marked as deleted. -/
def bidden : Market :=
  (start newYear 0 .unbounded fun _ n => ⟨BitVec.ofNat 128 n⟩).withBids
    ⟨[numbered 0, (numbered 1).tombstone newYear]⟩

/-- Both bids are changed, and a new one comes between them. -/
def changed : List Bid :=
  [
    (numbered 0).moveTo .selected newYear,
    numbered 2,
    ((numbered 1).tombstone newYear).moveTo .notSelected newYear
  ]

/-- Both bids are changed, the second one in a copy from before it was deleted. -/
def outdated : List Bid :=
  [(numbered 0).moveTo .selected newYear, (numbered 1).moveTo .notSelected newYear]

end Sample

/-- Three bids are saved together, and from the last to the first as well; where the second one
is outdated, it is blamed and none is saved.
-/
theorem bids_saved_together_changed
    : (∃ m', Sample.bidden.write (.bids Sample.changed) = (.ok (), m')
        ∧ Sample.bidden.SavesAlike Sample.changed.reverse m')
      ∧ ∃ e, Sample.bidden.write (.bids Sample.outdated) = (.error e, Sample.bidden)
        ∧ Sample.bidden.FirstStale Sample.outdated e := by
  have saved := bids_saved_together Sample.bidden Sample.changed (by decide)
  have refused := bids_saved_together Sample.bidden Sample.outdated (by decide)
  exact ⟨⟨_, rfl, saved.2 _ (List.reverse_perm _)⟩, _, rfl, refused.2.1⟩

end Market

end DebtMarket
