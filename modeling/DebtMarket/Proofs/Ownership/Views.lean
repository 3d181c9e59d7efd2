import DebtMarket.Proofs.Ownership.Guard
import DebtMarket.Proofs.Ownership.Owner

/-! Views of the ledger. It tells the history of an instrument, the row of its present owner and
the holdings of a company, each read off the rows in a way of its own. As one row of an
instrument at most is open, they tell the same; and if the rows of every instrument form a chain
and were added in the order of their acquisition, then every history is that chain.
-/

namespace DebtMarket

namespace Ledger

/-- The views of a ledger tell the same. A history is the rows of its instrument, oldest
acquisition first; the present owner is in the only open row of it; and a company holds the open
rows in which it is the owner, so an instrument is held by its present owner alone.
-/
structure Agrees (l : Ledger) : Prop where
  history
    : ∀ instrument,
        Arranges Ownership.acquiredAt (l.rowsOf instrument) (l.history instrument)
  once : ∀ instrument, ((l.history instrument).map Ownership.id).Nodup
  active
    : ∀ instrument row,
        l.active? instrument = some row
          ↔ row ∈ l.history instrument ∧ row.isActive = true
  only
    : ∀ instrument,
        (l.history instrument).filter Ownership.isActive = (l.active? instrument).toList
  holdings
    : ∀ owner row,
        row ∈ l.holdings owner ↔ row ∈ l.rows ∧ row.isActive = true ∧ row.owner = owner
  apart : ∀ owner, ((l.holdings owner).map Ownership.instrument).Nodup
  inOrder
    : ∀ owner, (l.holdings owner).Pairwise fun row next => row.acquiredAt ≤ next.acquiredAt
  held
    : ∀ instrument owner,
        instrument ∈ (l.holdings owner).map Ownership.instrument
          ↔ (l.active? instrument).map Ownership.owner = some owner

/-- The history of every instrument is its rows as they were added, each closed when the next
one was opened, up to the row of its present owner.
-/
structure Unbroken (l : Ledger) : Prop where
  history : ∀ instrument, l.history instrument = l.rowsOf instrument
  linked
    : ∀ instrument,
        (l.history instrument).IsChain fun row next =>
          row.relinquishedAt = some next.acquiredAt
  last : ∀ instrument, (l.history instrument).getLast? = l.active? instrument

/-- The rows of every instrument were added in the order of their acquisition. -/
def InOrder (l : Ledger) : Prop :=
  ∀ instrument,
    (l.rowsOf instrument).Pairwise fun row next => row.acquiredAt ≤ next.acquiredAt

variable {l l' : Ledger} {row active closing opened : Ownership} {instrument : InstrumentId}
  {owner : CompanyId}

theorem Chained.guarded (h : l.Chained) : l.Guarded := by
  intro instrument
  refine ⟨?_, (h instrument).distinct⟩
  rw [(h instrument).active]
  exact Option.length_toList_le

-----------------------------------------------------------------------------------------
-- Histories and holdings
-----------------------------------------------------------------------------------------

theorem arranges_history (l : Ledger) (instrument : InstrumentId)
    : Arranges Ownership.acquiredAt (l.rowsOf instrument) (l.history instrument) :=
  arranges_inOrderOf _ _

theorem arranges_holdings (l : Ledger) (owner : CompanyId)
    : Arranges Ownership.acquiredAt
        (l.rows.filter fun row => row.owner == owner && row.isActive) (l.holdings owner) :=
  arranges_inOrderOf _ _

theorem mem_holdings
    : row ∈ l.holdings owner ↔ row ∈ l.rows ∧ row.isActive = true ∧ row.owner = owner := by
  rw [(l.arranges_holdings owner).same.mem_iff]
  simp [and_comm]

/-- The open row of an instrument is the only open one of its history. -/
theorem Guarded.history_isActive (h : l.Guarded) (instrument : InstrumentId)
    : (l.history instrument).filter Ownership.isActive = (l.active? instrument).toList := by
  have same := (l.arranges_history instrument).same.filter Ownership.isActive
  rw [h.filter_isActive] at same
  cases owned : l.active? instrument with
  | none => simpa [owned] using same
  | some row => simpa [owned] using same

/-- A company holds an instrument in one row at most. -/
theorem Guarded.holdings_apart (h : l.Guarded) (owner : CompanyId)
    : ((l.holdings owner).map Ownership.instrument).Nodup := by
  have same := (l.arranges_holdings owner).same.map Ownership.instrument
  rw [same.nodup_iff, List.nodup_iff_count_le_one]
  intro instrument
  -- the rows that are counted are among the open rows of the instrument
  have among (row : Ownership)
      (counted : (row.instrument == instrument && (row.owner == owner && row.isActive)) = true)
      : (row.isActive && row.instrument == instrument) = true := by
    simp only [Bool.and_eq_true] at counted ⊢
    exact ⟨counted.2.2, counted.1⟩
  have single := (h instrument).single
  rw [rowsOf, List.filter_filter] at single
  rw [List.count_eq_countP, List.countP_map, List.countP_filter, List.countP_eq_length_filter]
  exact (List.monotone_filter_right l.rows among).length_le.trans single

/-- A company holds an instrument exactly if it is the present owner. -/
theorem Guarded.held_iff (h : l.Guarded)
    : instrument ∈ (l.holdings owner).map Ownership.instrument
      ↔ (l.active? instrument).map Ownership.owner = some owner := by
  simp only [List.mem_map, mem_holdings, Option.map_eq_some_iff, h.active?_eq_some, mem_rowsOf]
  constructor
  · rintro ⟨row, ⟨stored, isOpen, mine⟩, same⟩
    exact ⟨row, ⟨⟨stored, same⟩, isOpen⟩, mine⟩
  · rintro ⟨row, ⟨⟨stored, same⟩, isOpen⟩, mine⟩
    exact ⟨row, ⟨stored, isOpen, mine⟩, same⟩

theorem Guarded.agrees (h : l.Guarded) : l.Agrees where
  history := l.arranges_history
  once instrument := by
    have same := (l.arranges_history instrument).same.map Ownership.id
    exact same.nodup_iff.2 (h instrument).distinct
  active instrument row := by
    rw [h.active?_eq_some, (l.arranges_history instrument).same.mem_iff]
  only := h.history_isActive
  holdings _ _ := mem_holdings
  apart := h.holdings_apart
  inOrder owner := (l.arranges_holdings owner).inOrder
  held _ _ := h.held_iff

-----------------------------------------------------------------------------------------
-- Rows in the order of their acquisition
-----------------------------------------------------------------------------------------

theorem inOrder_empty : empty.InOrder :=
  fun _ => .nil

/-- Rows stay in order when one is inserted that none of its instrument is later than. -/
theorem InOrder.insert (h : l.InOrder) (inserted : l.insert row = .ok l')
    (late : ∀ earlier ∈ l.rowsOf row.instrument, earlier.acquiredAt ≤ row.acquiredAt)
    : l'.InOrder := by
  intro instrument
  by_cases mine : row.instrument = instrument
  · subst mine
    obtain ⟨-, -, rfl⟩ := insert_eq_ok.1 inserted
    rw [rowsOf_append, if_pos rfl, List.pairwise_append]
    refine ⟨h row.instrument, List.pairwise_singleton _ _, fun earlier member next last => ?_⟩
    rw [List.mem_singleton.1 last]
    exact late earlier member
  · rw [rowsOf_insert_other inserted mine]
    exact h instrument

/-- Rows stay in order when one is closed for another that none of its instrument is later than:
the closed row keeps its place and the time of its acquisition.
-/
theorem InOrder.transfer (h : l.InOrder) (chained : l.Chained)
    (owned : l.active? opened.instrument = some active) {last : Instant}
    (closed : active.relinquish last = .ok closing)
    (transferred : l.transfer closing opened = .ok l')
    (late : ∀ earlier ∈ l.rowsOf opened.instrument, earlier.acquiredAt ≤ opened.acquiredAt)
    : l'.InOrder := by
  intro instrument
  by_cases mine : opened.instrument = instrument
  · subst mine
    obtain ⟨-, -, -, -, -, rfl⟩ := transfer_eq_ok.1 transferred
    obtain ⟨-, rfl⟩ := Ownership.relinquish_eq_ok.1 closed
    have member := active?_mem owned
    obtain ⟨earlier, rows⟩ := (chained opened.instrument).split member (active?_isActive owned)
    obtain ⟨-, same⟩ := mem_rowsOf.1 member
    have before := h opened.instrument
    rw [← same] at rows before late
    rw [rowsOf_append, if_pos rfl, ← same, rowsOf_handed rows (chained _).distinct]
    rw [rows] at before late
    simp only [List.pairwise_append, List.mem_append, List.mem_singleton,
      List.pairwise_singleton, forall_eq, or_imp, forall_and] at before late ⊢
    exact ⟨⟨before.1, trivial, before.2.2⟩, trivial, late⟩
  · rw [rowsOf_transfer_other transferred mine]
    exact h instrument

/-- Rows that form chains and are in order make unbroken histories. -/
theorem InOrder.unbroken (h : l.InOrder) (chained : l.Chained) : l.Unbroken := by
  have whole (instrument : InstrumentId) : l.history instrument = l.rowsOf instrument :=
    inOrderOf_of_pairwise (h instrument)
  constructor
  · exact whole
  · intro instrument
    rw [whole]
    exact (chained instrument).linked.imp fun row next passes => passes.closed
  · intro instrument
    rw [whole, chained.active?_eq]

end Ledger

end DebtMarket
