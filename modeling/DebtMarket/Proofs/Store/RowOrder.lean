import DebtMarket.Proofs.Market.Batches
import DebtMarket.Proofs.Market.OpenListings
import DebtMarket.Proofs.Store.Searches
import DebtMarket.Proofs.Store.View

/-! The order of rows. A store may come to go through its records in another order at any time,
as long as it keeps the rows of an instrument in theirs. What it answers is the same in every
order, but for bids on a listing that are equally old; and what it makes of a write is the same
store again, in some order.
-/

namespace DebtMarket

-----------------------------------------------------------------------------------------
-- The same but for the order
-----------------------------------------------------------------------------------------

/-- Two lists of the same members, both oldest first: they differ at most in the order of members
that are equally old.
-/
structure Tied {α : Type} (time : α → Instant) (as bs : List α) : Prop where
  same : bs.Perm as
  inOrder : as.Pairwise fun a b => time a ≤ time b
  inOrder' : bs.Pairwise fun a b => time a ≤ time b

namespace Tied

variable {α : Type} {time : α → Instant} {as bs cs : List α}

theorem symm (h : Tied time as bs) : Tied time bs as :=
  ⟨h.same.symm, h.inOrder', h.inOrder⟩

theorem trans (h : Tied time as bs) (h' : Tied time bs cs) : Tied time as cs :=
  ⟨h'.same.trans h.same, h.inOrder, h'.inOrder'⟩

theorem filter (h : Tied time as bs) (p : α → Bool) : Tied time (as.filter p) (bs.filter p) :=
  ⟨h.same.filter p, h.inOrder.filter p, h.inOrder'.filter p⟩

/-- Members may be changed if that leaves them as old as they are. -/
theorem map (h : Tied time as bs) {f : α → α} (keeps : ∀ a, time (f a) = time a)
    : Tied time (as.map f) (bs.map f) where
  same := h.same.map f
  inOrder := List.pairwise_map.2 (by simpa only [keeps] using h.inOrder)
  inOrder' := List.pairwise_map.2 (by simpa only [keeps] using h.inOrder')

end Tied

/-- Two ledgers have the same rows of every instrument. -/
def Ledger.Alike (l l₁ : Ledger) : Prop :=
  ∀ instrument, l₁.rowsOf instrument = l.rowsOf instrument

/-- Two stores hold the same records, in whatever order, and the same rows of every instrument.
-/
structure Store.Rearranged (s s₁ : Store) : Prop where
  instruments : s.instruments.Alike s₁.instruments
  listings : s.listings.Alike s₁.listings
  bids : s.bids.Alike s₁.bids
  asks : s.asks.Alike s₁.asks
  ledger : s.ledger.Alike s₁.ledger

/-- Answers to a query, as stores give them that hold the same: they differ at most in the order
of bids that are equally old.
-/
def Query.Concur : (q : Query) → q.Answer → q.Answer → Prop
  | .bid id, found, found₁ => found₁ = found ∧ ∀ b, found = some b → b.id = id
  | .bidsFor _, bids, bids₁ =>
      Tied (fun b => b.revision.createdAt) bids bids₁ ∧ (bids.map Bid.id).Nodup
  | _, answer, answer₁ => answer₁ = answer

/-- Writes of the same records: different bids may be written in any order. -/
inductive Write.Concur : Write → Write → Prop
  | refl (w : Write) : Concur w w
  | bids {written written₁} (once : (written.map Bid.id).Nodup) (same : written₁.Perm written)
    : Concur (.bids written) (.bids written₁)

/-- Refusals that differ at most in which of several outdated bids they blame. -/
inductive StoreError.Concur : StoreError → StoreError → Prop
  | refl (e : StoreError) : Concur e e
  | outdated (id id₁ : String) (attempted attempted₁ stored stored₁ : UInt64)
    : Concur (.versionConflict "Bid" id attempted stored)
        (.versionConflict "Bid" id₁ attempted₁ stored₁)

namespace StoreError.Concur

variable {a b c : StoreError}

theorem symm (h : a.Concur b) : b.Concur a := by
  cases h with
  | refl => exact .refl a
  | outdated => exact .outdated ..

theorem trans (h : a.Concur b) (h' : b.Concur c) : a.Concur c := by
  cases h with
  | refl => exact h'
  | outdated =>
      cases h' with
      | refl => exact .outdated ..
      | outdated => exact .outdated ..

end StoreError.Concur

/-- Both end with errors that are related, or both with results that are. -/
inductive EndAlike {ε α : Type} (errors : ε → ε → Prop) (results : α → α → Prop)
    : Except ε α → Except ε α → Prop
  | error {e e₁} (same : errors e e₁) : EndAlike errors results (.error e) (.error e₁)
  | ok {a a₁} (same : results a a₁) : EndAlike errors results (.ok a) (.ok a₁)

namespace EndAlike

variable {ε α β : Type} {errors : ε → ε → Prop} {results : α → α → Prop} {x x₁ x₂ : Except ε α}

/-- What is made of results that are related is related to each other if each result is. -/
theorem map {results' : β → β → Prop} (h : EndAlike errors results x x₁) {f f₁ : α → β}
    (each : ∀ a a₁, results a a₁ → results' (f a) (f₁ a₁))
    : EndAlike errors results' (x.map f) (x₁.map f₁) := by
  cases h with
  | error same => exact .error same
  | ok same => exact .ok (each _ _ same)

theorem symm (h : EndAlike errors results x x₁) (flips : ∀ {e e₁}, errors e e₁ → errors e₁ e)
    (flips' : ∀ {a a₁}, results a a₁ → results a₁ a)
    : EndAlike errors results x₁ x := by
  cases h with
  | error same => exact .error (flips same)
  | ok same => exact .ok (flips' same)

theorem trans (h : EndAlike errors results x x₁)
    (chains : ∀ {a b c}, errors a b → errors b c → errors a c)
    (chains' : ∀ {a b c}, results a b → results b c → results a c)
    (h' : EndAlike errors results x₁ x₂)
    : EndAlike errors results x x₂ := by
  cases h with
  | error same =>
      obtain ⟨same'⟩ := h'
      exact .error (chains same same')
  | ok same =>
      obtain _ | ⟨same'⟩ := h'
      exact .ok (chains' same same')

end EndAlike

-----------------------------------------------------------------------------------------
-- Tables
-----------------------------------------------------------------------------------------

namespace Table

variable {α : Type} {kind : IdKind} [Stored α kind] {t t₁ t₂ : Table α}

theorem Alike.refl (t : Table α) : t.Alike t :=
  ⟨.refl _, fun _ => rfl⟩

theorem Alike.symm (h : t.Alike t₁) : t₁.Alike t :=
  ⟨h.rows.symm, fun id => (h.found id).symm⟩

theorem Alike.trans (h : t.Alike t₁) (h' : t₁.Alike t₂) : t.Alike t₂ :=
  ⟨h'.rows.trans h.rows, fun id => (h'.found id).trans (h.found id)⟩

theorem Keyed.of_alike (keyed : t.Keyed) (h : t.Alike t₁) : t₁.Keyed :=
  (h.rows.map Stored.id).nodup_iff.2 keyed

/-- Tables in which the same is found under every identifier hold the same records. -/
theorem Keyed.alike (keyed : t.Keyed) (keyed₁ : t₁.Keyed)
    (found : ∀ id : Id kind, t₁.find? id = t.find? id)
    : t.Alike t₁ := by
  refine ⟨?_, found⟩
  rw [List.perm_ext_iff_of_nodup keyed₁.of_map keyed.of_map]
  intro a
  constructor
  · intro member
    exact find?_mem ((found _).symm.trans (keyed₁.find?_of_mem member))
  · intro member
    exact find?_mem ((found _).trans (keyed.find?_of_mem member))

theorem Alike.get? (h : t.Alike t₁) (id : Id kind) : t₁.get? id = t.get? id :=
  congrArg (Option.filter isLive) (h.found id)

/-- What is searched for is found in every order of rows, oldest first. -/
theorem Alike.search (h : t.Alike t₁) (test : α → Bool)
    : Tied (fun a => (Stored.revision a).createdAt) (t.search test) (t₁.search test) where
  same :=
    (arranges_inOrderOf _ _).same.trans
      ((h.rows.filter _).trans (arranges_inOrderOf _ _).same.symm)
  inOrder := t.search_inOrder test
  inOrder' := t₁.search_inOrder test

theorem Alike.put (h : t.Alike t₁) (a : α) : (t.put a).Alike (t₁.put a) :=
  ⟨put_perm h.rows a, fun id => find?_put_congr (h.found id)⟩

theorem Alike.puts (h : t.Alike t₁) (records : List α)
    : (records.foldl Table.put t).Alike (records.foldl Table.put t₁) :=
  ⟨puts_perm h.rows records, fun id => find?_puts_congr (h.found id)⟩

theorem Alike.checkVersion (h : t.Alike t₁) (a : α) : t₁.checkVersion a = t.checkVersion a :=
  checkVersion_congr (h.found _)

/-- A record is saved or refused in every order of rows. -/
theorem Alike.save (h : t.Alike t₁) (a : α)
    : EndAlike StoreError.Concur Alike (t.save a) (t₁.save a) := by
  rw [save_eq, save_eq, h.checkVersion a]
  cases t.checkVersion a with
  | error e => exact .error (.refl e)
  | ok u => exact .ok (h.put a)

/-- Whether several records are saved depends on no order. -/
theorem Alike.saveAll_eq_ok_iff (h : t.Alike t₁) {records order : List α}
    (same : order.Perm records)
    : t₁.saveAll order = .ok (order.foldl Table.put t₁)
      ↔ t.saveAll records = .ok (records.foldl Table.put t) := by
  simp only [saveAll_eq_ok, and_true, same.mem_iff, h.found]

end Table

-----------------------------------------------------------------------------------------
-- Stores
-----------------------------------------------------------------------------------------

namespace Store

variable {s s₁ s₂ : Store}

theorem Rearranged.refl (s : Store) : s.Rearranged s :=
  ⟨.refl _, .refl _, .refl _, .refl _, fun _ => rfl⟩

theorem Rearranged.symm (h : s.Rearranged s₁) : s₁.Rearranged s :=
  ⟨h.instruments.symm, h.listings.symm, h.bids.symm, h.asks.symm, fun id => (h.ledger id).symm⟩

theorem Rearranged.trans (h : s.Rearranged s₁) (h' : s₁.Rearranged s₂) : s.Rearranged s₂ where
  instruments := h.instruments.trans h'.instruments
  listings := h.listings.trans h'.listings
  bids := h.bids.trans h'.bids
  asks := h.asks.trans h'.asks
  ledger := fun id => (h'.ledger id).trans (h.ledger id)

/-- Stores with the same views hold the same. -/
theorem Keyed.rearranged (keyed : s.Keyed) (keyed₁ : s₁.Keyed)
    (same : ∀ id, s₁.view id = s.view id)
    : s.Rearranged s₁ where
  instruments := keyed.instruments.alike keyed₁.instruments fun id => by
    injection same (.instrument id)
  listings := keyed.listings.alike keyed₁.listings fun id => by
    injection same (.listing id)
  bids := keyed.bids.alike keyed₁.bids fun id => by
    injection same (.bid id)
  asks := keyed.asks.alike keyed₁.asks fun id => by
    injection same (.ask id)
  ledger := fun id => by
    injection same (.instrument id)

/-- A store in which no two listings offer the same instrument, and one that holds the same. -/
structure Mirrors (s s₁ : Store) : Prop where
  keyed : s.Keyed
  unrivalled : s.Unrivalled
  same : s.Rearranged s₁

theorem Mirrors.symm (h : s.Mirrors s₁) : s₁.Mirrors s where
  keyed := {
    instruments := h.keyed.instruments.of_alike h.same.instruments
    listings := h.keyed.listings.of_alike h.same.listings
    bids := h.keyed.bids.of_alike h.same.bids
    asks := h.keyed.asks.of_alike h.same.asks
  }
  unrivalled := fun x stored y stored' =>
    h.unrivalled x (h.same.listings.rows.mem_iff.1 stored) y
      (h.same.listings.rows.mem_iff.1 stored')
  same := h.same.symm

theorem Mirrors.trans (h : s.Mirrors s₁) (h' : s₁.Rearranged s₂) : s.Mirrors s₂ :=
  { h with same := h.same.trans h' }

/-- The listing that offers an instrument is the same in every order, as there is one at most. -/
theorem Mirrors.openListing? (h : s.Mirrors s₁) (instrument : InstrumentId)
    : s₁.openListing? instrument = s.openListing? instrument :=
  (h.keyed.soleOffers h.unrivalled).anyOrder _ instrument h.same.listings.rows

theorem Mirrors.rival? (h : s.Mirrors s₁) (x : Listing) : s₁.rival? x = s.rival? x := by
  refine find?_of_perm ?_ h.same.listings.rows
  exact h.keyed.single_offer h.unrivalled x.instrument (by simp)

/-- A query is answered in every order, but for the order of bids that are equally old: by cases
on the query.
-/
theorem Mirrors.answer (h : s.Mirrors s₁) (q : Query) : q.Concur (s.answer q) (s₁.answer q) := by
  cases q with
  | instrument id => exact h.same.instruments.get? id
  | listing id => exact h.same.listings.get? id
  | openListing instrument => exact h.openListing? instrument
  | bid id => exact ⟨h.same.bids.get? id, fun b found => Table.get?_id found⟩
  | bidsFor listing =>
      have finds : s.bids.Finds (fun b => (b.listing == listing) = true) (s.bidsFor listing) :=
        Table.Keyed.finds h.keyed.bids fun _ => Iff.rfl
      exact ⟨h.same.bids.search _, finds.once⟩
  | ask id => exact h.same.asks.get? id
  | activeRow instrument =>
      exact congrArg (List.find? Ownership.isActive) (h.same.ledger instrument)

/-- Bids that are refused together are refused for one of them that is outdated. -/
theorem outdated_concur {t t₁ : Table Bid} {written written₁ : List Bid} {e e₁ : StoreError}
    (refused : t.saveAll written = .error e) (refused₁ : t₁.saveAll written₁ = .error e₁)
    : e.Concur e₁ := by
  obtain ⟨-, b, -, -, -, stale⟩ := Table.saveAll_eq_error.1 refused
  obtain ⟨-, b₁, -, -, -, stale₁⟩ := Table.saveAll_eq_error.1 refused₁
  obtain ⟨stored, -, -, rfl⟩ := Table.checkVersion_eq_error.1 stale
  obtain ⟨stored₁, -, -, rfl⟩ := Table.checkVersion_eq_error.1 stale₁
  exact .outdated ..

/-- Bids are saved together or refused in every order, if they come to the same when they are put
in.
-/
theorem saveAll_concur {t t₁ : Table Bid} (h : t.Alike t₁) {written written₁ : List Bid}
    (same : written₁.Perm written)
    (puts : (written.foldl Table.put t).Alike (written₁.foldl Table.put t₁))
    : EndAlike StoreError.Concur Table.Alike (t.saveAll written) (t₁.saveAll written₁) := by
  have verdict := h.saveAll_eq_ok_iff same
  cases saved : t.saveAll written with
  | ok u =>
      obtain ⟨-, rfl⟩ := Table.saveAll_eq_ok.1 saved
      rw [verdict.2 saved]
      exact .ok puts
  | error e =>
      cases saved₁ : t₁.saveAll written₁ with
      | error e₁ => exact .error (outdated_concur saved saved₁)
      | ok u =>
          obtain ⟨-, rfl⟩ := Table.saveAll_eq_ok.1 saved₁
          cases saved.symm.trans (verdict.1 saved₁)

/-- What is decided by the rows of one instrument is decided alike. -/
theorem rows_concur {made made₁ : Except StoreError Ledger}
    (verdict : made₁.map (fun _ => ()) = made.map fun _ => ())
    (rows : ∀ l l₁, made = .ok l → made₁ = .ok l₁ → Ledger.Alike l l₁)
    : EndAlike StoreError.Concur Ledger.Alike made made₁ := by
  cases made with
  | error e =>
      cases made₁ with
      | error e₁ =>
          cases verdict
          exact .error (.refl e)
      | ok l₁ => cases verdict
  | ok l =>
      cases made₁ with
      | error e₁ => cases verdict
      | ok l₁ => exact .ok (rows l l₁ rfl rfl)

/-- A write is taken or refused in every order, by cases on what is written. -/
theorem Mirrors.write_rearranged (mirrors : s.Mirrors s₁) {w w₁ : Write} (same : w.Concur w₁)
    : EndAlike StoreError.Concur Rearranged (s.write w) (s₁.write w₁) := by
  have h := mirrors.same
  cases same with
  | @bids written written₁ once same =>
      have puts := (h.bids.puts written).trans (Table.alike_puts once same _)
      rw [write_bids, write_bids]
      exact (saveAll_concur h.bids same puts).map fun t t₁ bids => { h with bids }
  | refl =>
      cases w with
      | instrument x =>
          rw [write_instrument, write_instrument]
          exact (h.instruments.save x).map fun t t₁ instruments => { h with instruments }
      | listing x =>
          rw [write_listing, write_listing, h.listings.checkVersion x,
            mirrors.rival? x]
          have taken : ({ s with listings := s.listings.put x } : Store).Rearranged
              { s₁ with listings := s₁.listings.put x } :=
            { h with listings := h.listings.put x }
          cases s.listings.checkVersion x with
          | error e => exact .error (.refl e)
          | ok u =>
              cases x.offers x.instrument with
              | false => exact .ok taken
              | true =>
                  cases s.rival? x with
                  | none => exact .ok taken
                  | some other => exact .error (.refl _)
      | bid b =>
          rw [write_bid, write_bid]
          exact (h.bids.save b).map fun t t₁ bids => { h with bids }
      | bids written =>
          rw [write_bids, write_bids]
          exact (saveAll_concur h.bids (.refl _) (h.bids.puts written)).map
            fun t t₁ bids => { h with bids }
      | ask a =>
          rw [write_ask, write_ask]
          exact (h.asks.save a).map fun t t₁ asks => { h with asks }
      | row added =>
          rw [write_row, write_row]
          refine (rows_concur (Ledger.insert_verdict (h.ledger _)) ?_).map
            fun l l₁ ledger => { h with ledger }
          exact fun l l₁ here there id => Ledger.rowsOf_insert_congr here there (h.ledger id)
      | transfer closing opened =>
          rw [write_transfer, write_transfer]
          refine (rows_concur (Ledger.transfer_verdict (h.ledger _)) ?_).map
            fun l l₁ ledger => { h with ledger }
          exact fun l l₁ here there id => Ledger.rowsOf_transfer_congr here there (h.ledger id)

/-- The stores that are left by a write that is taken hold the same again. -/
theorem Mirrors.write (h : s.Mirrors s₁) {w w₁ : Write} (same : w.Concur w₁)
    : EndAlike StoreError.Concur Mirrors (s.write w) (s₁.write w₁) := by
  have ends := h.write_rearranged same
  generalize here : s.write w = left, s₁.write w₁ = right at ends
  cases ends with
  | error same => exact .error same
  | ok same =>
      have takes := write_takes here
      exact .ok ⟨takes.keyed h.keyed, takes.unrivalled h.unrivalled, same⟩

end Store

end DebtMarket
