import DebtMarket.Proofs.Floor.Writes
import DebtMarket.Proofs.Ownership.Chain

/-! Ownership on the floor. Only issuances and transfers write to the ledger, each of them in
one write that was checked against the rows it is made on. So the rows of every instrument
form a chain whatever tasks do at the same time, and the ledger only grows.
-/

namespace DebtMarket

namespace Store

variable {s s' : Store}

/-- Every write of a command keeps the chains of ownership and lets the ledger grow. -/
theorem Yields.chained (h : s.Yields s') (chained : s.ledger.Chained)
    : s'.ledger.Chained ∧ s.ledger.Grows s'.ledger := by
  obtain ⟨g, c, outcome, w, notice, performs, written⟩ := h
  cases write_takes written with
  | row inserted =>
      cases performs with
      | recordIssuance unowned => exact chained.issue unowned inserted
  | transfer transferred =>
      cases performs with
      | transfer handed owned giver taker closed =>
          exact chained.transfer transferred owned closed (Ne.symm taker) handed
  | _ => exact ⟨chained, .refl _⟩

end Store

namespace Floor

/-- At every moment of every schedule the rows of every instrument form an unbroken chain,
and whatever follows leaves every row in its place and at most closes it, for good.
-/
theorem ownership_chained (clock : Instant) (threshold : Nat) (outlet : Outlet)
    (source : IdKind → Nat → Uuid) (earlier later : List Turn)
    : let before := (start clock threshold outlet source).run earlier
      before.market.store.ledger.Chained
      ∧ before.market.store.ledger.Grows (before.run later).market.store.ledger := by
  intro before
  have consistent : before.Consistent :=
    (consistent_start clock threshold outlet source).run earlier
  have chained : before.market.store.ledger.Chained :=
    (consistent_start clock threshold outlet source).invariant
      (fun s s' _ yields chained => (yields.chained chained).1) Ledger.chained_empty earlier
  refine ⟨chained, ?_⟩
  have invariant := consistent.invariant
    (P := fun s => s.ledger.Chained ∧ before.market.store.ledger.Grows s.ledger)
    (fun s s' _ yields ⟨chained, grows⟩ =>
      ⟨(yields.chained chained).1, grows.trans (yields.chained chained).2⟩)
    ⟨chained, .refl _⟩ later
  exact invariant.2

end Floor

end DebtMarket
