import DebtMarket.Proofs.Ownership.Chain
import DebtMarket.Proofs.Store.Access

/-! Owners. The company that owns an instrument is the one in its open row. A new open row
makes its company the owner, be it the row of an issuance or of a transfer, and the owners of
all other instruments stay. The first owner of an instrument stays the first one for good.
-/

namespace DebtMarket

namespace Ledger

variable {l l' : Ledger} {row closing opened : Ownership} {instrument : InstrumentId}

/-- The open row of a chain is its last one. -/
theorem Chained.active?_eq (h : l.Chained) (instrument : InstrumentId)
    : l.active? instrument = (l.rowsOf instrument).getLast? := by
  rw [active?, ← List.head?_filter, (h instrument).active]
  cases (l.rowsOf instrument).getLast? <;> rfl

/-- An instrument without an open row has no rows at all. -/
theorem Chained.rowsOf_eq_nil (h : l.Chained)
    : l.rowsOf instrument = [] ↔ l.active? instrument = none := by
  rw [h.active?_eq, List.getLast?_eq_none_iff]

/-- An open row that was inserted is the open row of its instrument. -/
theorem active?_insert (inserted : l.insert row = .ok l') (isOpen : row.isActive = true)
    (instrument : InstrumentId)
    : l'.active? instrument
      = if row.instrument = instrument then some row else l.active? instrument := by
  obtain ⟨-, unowned, rfl⟩ := insert_eq_ok.1 inserted
  split
  · next same =>
      subst same
      have before : (l.rowsOf row.instrument).find? Ownership.isActive = none := unowned isOpen
      rw [active?, rowsOf_append, if_pos rfl, List.find?_append, before]
      simp [isOpen]
  · next other => rw [active?, rowsOf_insert_other inserted other, active?]

/-- The row that a transfer opens is the open row of its instrument. -/
theorem active?_transfer (h : l'.Chained) (transferred : l.transfer closing opened = .ok l')
    (instrument : InstrumentId)
    : l'.active? instrument
      = if opened.instrument = instrument then some opened else l.active? instrument := by
  split
  · next same =>
      subst same
      rw [h.active?_eq]
      obtain ⟨-, -, -, -, -, rfl⟩ := transfer_eq_ok.1 transferred
      rw [rowsOf_append, if_pos rfl, List.getLast?_concat]
  · next other => rw [active?, rowsOf_transfer_other transferred other, active?]

-----------------------------------------------------------------------------------------
-- First owners
-----------------------------------------------------------------------------------------

/-- The company that an instrument was issued to. -/
def firstOwner? (l : Ledger) (instrument : InstrumentId) : Option CompanyId :=
  (l.rowsOf instrument).head?.map Ownership.owner

theorem firstOwner?_eq_none : l.firstOwner? instrument = none ↔ l.rowsOf instrument = [] := by
  rw [firstOwner?, Option.map_eq_none_iff, List.head?_eq_none_iff]

/-- An open row that was inserted is the first one of its instrument. -/
theorem firstOwner?_insert (h : l.Chained) (inserted : l.insert row = .ok l')
    (isOpen : row.isActive = true)
    : l'.firstOwner? = Function.update l.firstOwner? row.instrument (some row.owner) := by
  funext instrument
  by_cases mine : instrument = row.instrument
  · subst mine
    obtain ⟨-, unowned, rfl⟩ := insert_eq_ok.1 inserted
    have none : l.rowsOf row.instrument = [] := h.rowsOf_eq_nil.2 (unowned isOpen)
    rw [Function.update_self, firstOwner?, rowsOf_append, if_pos rfl, none]
    rfl
  · rw [Function.update_of_ne mine, firstOwner?, firstOwner?,
      rowsOf_insert_other inserted (Ne.symm mine)]

/-- A transfer closes a row in its place and does not change the first owner. -/
theorem firstOwner?_transfer (h : l.Chained) {active : Ownership}
    (owned : l.active? opened.instrument = some active) {last : Instant}
    (closed : active.relinquish last = .ok closing)
    (transferred : l.transfer closing opened = .ok l')
    : l'.firstOwner? = l.firstOwner? := by
  funext instrument
  by_cases mine : opened.instrument = instrument
  · subst mine
    obtain ⟨-, -, -, -, -, rfl⟩ := transfer_eq_ok.1 transferred
    obtain ⟨-, rfl⟩ := Ownership.relinquish_eq_ok.1 closed
    have member := active?_mem owned
    obtain ⟨earlier, rows⟩ := (h opened.instrument).split member (active?_isActive owned)
    obtain ⟨-, same⟩ := mem_rowsOf.1 member
    rw [← same] at rows ⊢
    rw [firstOwner?, firstOwner?, rowsOf_append, rowsOf_handed rows (h _).distinct, rows]
    cases earlier <;> rfl
  · rw [firstOwner?, firstOwner?, rowsOf_transfer_other transferred mine]

end Ledger

namespace Store

/-- The company that owns an instrument. -/
def owner? (s : Store) (instrument : InstrumentId) : Option CompanyId :=
  (s.ledger.active? instrument).map Ownership.owner

end Store

end DebtMarket
