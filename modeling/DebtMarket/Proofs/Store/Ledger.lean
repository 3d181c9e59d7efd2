import DebtMarket.Proofs.InPlace
import DebtMarket.Store.Ledger

/-! The theory of the ledger. A row is inserted if its identifier is new to its instrument
and no second open row comes of it; a transfer closes an open row in its place and adds its
successor. The rows of other instruments are never touched.
-/

namespace DebtMarket

namespace Ledger

variable {l l' : Ledger} {row closing opened : Ownership} {instrument : InstrumentId}

theorem hasRow_eq_false {id : OwnershipId}
    : l.hasRow instrument id = false ↔ ∀ row ∈ l.rowsOf instrument, row.id ≠ id := by
  simp [hasRow]

theorem active?_eq_none
    : l.active? instrument = none ↔ ∀ row ∈ l.rowsOf instrument, row.isActive = false := by
  simp [active?]

theorem mem_rowsOf : row ∈ l.rowsOf instrument ↔ row ∈ l.rows ∧ row.instrument = instrument := by
  simp [rowsOf]

theorem active?_mem (h : l.active? instrument = some row) : row ∈ l.rowsOf instrument :=
  List.mem_of_find?_eq_some h

theorem active?_isActive (h : l.active? instrument = some row) : row.isActive = true :=
  List.find?_some h

/-- A row is added once it has passed all checks. -/
theorem insert_eq (l : Ledger) (row : Ownership)
    : l.insert row = (do
        if l.hasRow row.instrument row.id then refuse row "duplicate row id"
        if row.isActive then
          if let some active := l.active? row.instrument then
            refuse row s!"instrument {row.instrument} already has active row {active.id}"
        return ⟨l.rows ++ [row]⟩) := by
  rw [insert, inserting, InPlace.apply_get_bind]
  cases l.hasRow row.instrument row.id with
  | true => rfl
  | false =>
      cases row.isActive with
      | false => rfl
      | true => cases l.active? row.instrument <;> rfl

/-- A row is closed and its successor added once both have passed all checks. -/
theorem transfer_eq (l : Ledger) (closing opened : Ownership)
    : l.transfer closing opened = (do
        if closing.isActive || !opened.isActive then
          refuse opened "transfer must close one row and open another"
        if closing.instrument != opened.instrument then
          refuse opened "transfer rows belong to different instruments"
        match (l.rowsOf closing.instrument).find? fun row => row.id == closing.id with
        | none => throw (.notFound noun (toString closing.id))
        | some stored =>
            if !stored.isActive then refuse closing "row was already relinquished"
            if l.hasRow closing.instrument opened.id then refuse opened "duplicate row id"
            return ⟨l.replace closing ++ [opened]⟩) := by
  rw [transfer, transferring]
  cases closing.isActive || !opened.isActive with
  | true => rfl
  | false =>
      cases closing.instrument != opened.instrument with
      | true => rfl
      | false =>
          simp only [InPlace.apply_get_bind, Bool.false_eq_true, if_false]
          cases (l.rowsOf closing.instrument).find? fun row => row.id == closing.id with
          | none => rfl
          | some stored =>
              cases active : stored.isActive with
              | false => simp only [active, Bool.not_false, if_true]; rfl
              | true => cases l.hasRow closing.instrument opened.id <;> simp [active] <;> rfl

theorem inserting_whole (row : Ownership) : (inserting row).Whole := by
  refine InPlace.reads_get.bind_whole fun l => InPlace.whole_guard fun _ => ?_
  dsimp only
  split
  · split
    · exact (InPlace.reads_check _).bind_whole fun _ => (InPlace.surely_modify _).whole
    · exact (InPlace.surely_modify _).whole
  · exact (InPlace.surely_modify _).whole

/-- A transfer is checked as a whole before the first of its two writes. -/
theorem transferring_whole (closing opened : Ownership)
    : (transferring closing opened).Whole := by
  refine InPlace.whole_guard fun _ => InPlace.whole_guard fun _ => ?_
  refine InPlace.reads_get.bind_whole fun l => ?_
  split
  · exact InPlace.whole_throw _
  · refine InPlace.whole_guard fun _ => InPlace.whole_guard fun _ => InPlace.Surely.whole ?_
    exact (InPlace.surely_modify _).bind fun _ => InPlace.surely_modify _

/-- A row is inserted exactly if its identifier is new to its instrument and it is closed
or the only open one.
-/
theorem insert_eq_ok
    : l.insert row = .ok l'
      ↔ l.hasRow row.instrument row.id = false
        ∧ (row.isActive = true → l.active? row.instrument = none)
        ∧ l' = ⟨l.rows ++ [row]⟩ := by
  rw [insert_eq]
  cases hasRow : l.hasRow row.instrument row.id
  · cases isActive : row.isActive
    · simp [pure, Except.pure, eq_comm]
    · cases active : l.active? row.instrument
      · simp [pure, Except.pure, eq_comm]
      · simp [refuse, bind, Except.bind]
  · simp [refuse, bind, Except.bind]

/-- A transfer is made exactly if it closes a stored open row and opens another one of the
same instrument under a new identifier.
-/
theorem transfer_eq_ok
    : l.transfer closing opened = .ok l'
      ↔ closing.isActive = false ∧ opened.isActive = true
        ∧ closing.instrument = opened.instrument
        ∧ (∃ stored, (l.rowsOf closing.instrument).find? (fun row => row.id == closing.id)
              = some stored ∧ stored.isActive = true)
        ∧ l.hasRow closing.instrument opened.id = false
        ∧ l' = ⟨l.replace closing ++ [opened]⟩ := by
  rw [transfer_eq]
  cases closed : closing.isActive
  · cases isOpen : opened.isActive
    · simp [refuse, bind, Except.bind]
    · by_cases same : closing.instrument = opened.instrument
      · rw [same]
        cases found : (l.rowsOf opened.instrument).find? (fun row => row.id == closing.id)
        · simp
        · next stored =>
            cases active : stored.isActive
            · simp [active, refuse, bind, Except.bind]
            · cases hasRow : l.hasRow opened.instrument opened.id
              · simp [active, pure, Except.pure]
                exact eq_comm
              · simp [active, refuse, bind, Except.bind]
      · simp [same, refuse, bind, Except.bind]
  · simp [refuse, bind, Except.bind]

-----------------------------------------------------------------------------------------
-- The rows of one instrument
-----------------------------------------------------------------------------------------

theorem rowsOf_append (rows : List Ownership) (row : Ownership) (instrument : InstrumentId)
    : rowsOf ⟨rows ++ [row]⟩ instrument
      = rowsOf ⟨rows⟩ instrument ++ if row.instrument = instrument then [row] else [] := by
  simp only [rowsOf, List.filter_append]
  by_cases same : row.instrument = instrument <;> simp [same]

/-- Replacing a row replaces it among the rows of its instrument. -/
theorem rowsOf_replace_self (l : Ledger) (row : Ownership)
    : rowsOf ⟨l.replace row⟩ row.instrument
      = (l.rowsOf row.instrument).map fun other =>
          if other.id = row.id then row else other := by
  simp only [rowsOf, replace]
  induction l.rows with
  | nil => rfl
  | cons other rest ih =>
      by_cases same : other.instrument = row.instrument
      · by_cases here : other.id = row.id
        · simpa [same, here] using ih
        · simpa [same, here] using ih
      · simpa [same] using ih

/-- Replacing a row leaves the rows of other instruments alone. -/
theorem rowsOf_replace_other {row : Ownership} (other : row.instrument ≠ instrument)
    : rowsOf ⟨l.replace row⟩ instrument = l.rowsOf instrument := by
  simp only [rowsOf, replace]
  induction l.rows with
  | nil => rfl
  | cons first rest ih =>
      by_cases same : first.instrument = row.instrument
      · by_cases here : first.id = row.id
        · simpa [same, here, other] using ih
        · simpa [same, here, other] using ih
      · by_cases mine : first.instrument = instrument
        · simpa [same, mine, Ne.symm other] using ih
        · simpa [same, mine] using ih

/-- A new row leaves the rows of other instruments alone. -/
theorem rowsOf_insert_other (h : l.insert row = .ok l')
    (other : row.instrument ≠ instrument)
    : l'.rowsOf instrument = l.rowsOf instrument := by
  obtain ⟨-, -, rfl⟩ := insert_eq_ok.1 h
  rw [rowsOf_append, if_neg other, List.append_nil]

/-- A transfer leaves the rows of other instruments alone. -/
theorem rowsOf_transfer_other (h : l.transfer closing opened = .ok l')
    (other : opened.instrument ≠ instrument)
    : l'.rowsOf instrument = l.rowsOf instrument := by
  obtain ⟨-, -, same, -, -, rfl⟩ := transfer_eq_ok.1 h
  rw [rowsOf_append, if_neg other, List.append_nil, rowsOf_replace_other (same ▸ other)]

end Ledger

end DebtMarket
