import DebtMarket.Proofs.Floor.Sellers
import DebtMarket.Proofs.Ownership.Views

/-! The views of the ledger on the floor. As the rows of every instrument form a chain at every
moment, histories, owners and holdings tell the same, whatever the clock shows. If the clock is
never set back between two readings, then rows are added in the order of their acquisition, and
the history of an instrument is its chain.
-/

namespace DebtMarket

namespace Store

variable {s s' : Store} {now : Instant} {c : Command}

/-- What is entered in the books keeps the ledger in order, if nothing in the books of its
instrument is later: by cases on what is entered.
-/
theorem Books.inOrder (h : s.Books now c s') (chained : s.ledger.Chained)
    (early : ∀ instrument, c.books? = some instrument → s.Early instrument now)
    (before : s.ledger.InOrder)
    : s'.ledger.InOrder := by
  cases h with
  | issued listings inserted => exact before.insert inserted (early _ rfl).rows
  | handed listings owned closed transferred =>
      exact before.transfer chained owned closed transferred (early _ rfl).rows
  | listed absent owned owner unoffered listings ledger => exact ledger ▸ before
  | moved stored listings ledger => exact ledger ▸ before
  | kept listings ledger => exact ledger ▸ before

end Store

namespace Floor

variable {f : Floor} {past : List Instant}

/-- A turn leaves the store or enters something in the books that is not earlier than the books
of its instrument: only steps write.
-/
theorem Timely.after_books (h : f.Timely past) (consistent : f.Consistent) (turn : Turn)
    : (f.after turn).market.store = f.market.store
      ∨ ∃ now c,
          f.market.store.Books now c (f.after turn).market.store
          ∧ ∀ instrument, c.books? = some instrument → f.market.store.Early instrument now := by
  have next := consistent.next turn
  generalize f.after turn = f' at next ⊢
  cases next with
  | @moved index t found moves =>
      rcases h.books consistent (List.mem_of_getElem? found) with same | ⟨now, books, known, -⟩
      · exact .inl same
      · exact .inr ⟨now, t.command, books, fun instrument enters => (known instrument enters).2⟩
  | @dropped index t found => exact .inl (t.drop_store f.market)
  | _ => exact .inl rfl

/-- A schedule adds rows in the order of their acquisition if the times that are read never
decrease: by induction on the schedule.
-/
theorem Timely.inOrder (h : f.Timely past) (consistent : f.Consistent)
    (before : f.market.store.ledger.InOrder) (schedule : List Turn)
    (forward : (past ++ f.readings schedule).Pairwise (· ≤ ·))
    : (f.run schedule).market.store.ledger.InOrder := by
  induction schedule generalizing f past with
  | nil => exact before
  | cons turn rest ih =>
      rw [readings, ← List.append_assoc] at forward
      refine ih (h.next consistent turn forward) (consistent.after turn) ?_ forward
      rcases h.after_books consistent turn with same | ⟨now, c, books, early⟩
      · rw [same]
        exact before
      · exact books.inOrder h.chained early before

/-- At every moment of every schedule histories, owners and holdings tell the same. If no time
that was read is earlier than the one read before it, then every history is the rows of its
instrument as they were added, without a gap, up to the row of the present owner.
-/
theorem views_agree (clock : Instant) (threshold : Nat) (outlet : Outlet)
    (source : IdKind → Nat → Uuid) (schedule : List Turn)
    : let before := start clock threshold outlet source
      let ledger := (before.run schedule).market.store.ledger
      ledger.Agrees ∧ ((before.readings schedule).IsChain (· ≤ ·) → ledger.Unbroken) := by
  intro before ledger
  have consistent : before.Consistent := consistent_start clock threshold outlet source
  have chained : ledger.Chained :=
    consistent.invariant (fun s s' _ yields chained => (yields.chained chained).1)
      Ledger.chained_empty schedule
  refine ⟨chained.guarded.agrees, fun forward => ?_⟩
  have inOrder : ledger.InOrder :=
    (timely_start clock threshold outlet source).inOrder consistent Ledger.inOrder_empty
      schedule (List.isChain_iff_pairwise.1 forward)
  exact inOrder.unbroken chained

namespace Sample

/-- An instrument is passed on at the instant at which it is issued, and back a second later. -/
def passingOn : List Turn :=
  inTurn
      [
        .recordIssuance ⟨⟨0⟩⟩ seller.company,
        .transfer ⟨⟨0⟩⟩ seller.company buyer.company .trade
      ]
    ++ .setClock secondLater
      :: .request (.transfer ⟨⟨0⟩⟩ buyer.company seller.company .trade)
      :: List.replicate 16 (.step 2)

/-- The ledger after that. -/
def passedOn : Ledger :=
  (opened.run passingOn).market.store.ledger

end Sample

/-- The history of an instrument that comes back to its issuer has three rows, two of which were
acquired at the same instant.
-/
theorem views_agree_passed_on
    : (Sample.opened.readings Sample.passingOn).IsChain (· ≤ ·)
      ∧ (Sample.passedOn.history ⟨⟨0⟩⟩).map (fun row => (row.owner, row.acquiredAt))
        = [
          (Sample.seller.company, Market.Sample.newYear),
          (Sample.buyer.company, Market.Sample.newYear),
          (Sample.seller.company, Sample.secondLater)
        ]
      ∧ Sample.passedOn.Agrees ∧ Sample.passedOn.Unbroken := by
  have forward : (Sample.opened.readings Sample.passingOn).IsChain (· ≤ ·) := by
    have read : Sample.opened.readings Sample.passingOn
        = [Market.Sample.newYear, Market.Sample.newYear, Sample.secondLater] := by cbv
    rw [read]
    decide
  obtain ⟨agrees, unbroken⟩ :
      Sample.passedOn.Agrees
      ∧ ((Sample.opened.readings Sample.passingOn).IsChain (· ≤ ·)
        → Sample.passedOn.Unbroken) := by
    rw [Sample.passedOn, Sample.opened]
    exact views_agree _ _ _ _ Sample.passingOn
  refine ⟨forward, ?_, agrees, unbroken forward⟩
  rw [(unbroken forward).history]
  cbv

end Floor

end DebtMarket
