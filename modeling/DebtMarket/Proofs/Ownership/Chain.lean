import Mathlib.Data.List.Chain
import Mathlib.Data.List.Nodup
import DebtMarket.Proofs.Store.Ledger

/-! Chains of ownership. The rows of an instrument form one unbroken chain from its issuance
to its present owner: every row but the last was closed when the next one was opened, for
another owner. A transfer closes the last row in its place and adds the next one, and no row
changes otherwise.
-/

namespace DebtMarket

namespace Ownership

/-- A row passes its instrument on to the next one: it was closed when that one was opened,
and the next owner is another one.
-/
structure Passes (row next : Ownership) : Prop where
  closed : row.relinquishedAt = some next.acquiredAt
  another : row.owner ≠ next.owner

/-- Rows that form one unbroken chain of ownership, or none at all. -/
structure Chain (rows : List Ownership) : Prop where
  issued : ∀ row ∈ rows.head?, row.reason = .issuance
  handed : ∀ row ∈ rows.tail, row.reason ≠ .issuance
  linked : rows.IsChain Passes
  active : rows.filter isActive = rows.getLast?.toList
  distinct : (rows.map id).Nodup

/-- A row after some time: it is as it was, or it was open and has been closed since. -/
def Becomes (row later : Ownership) : Prop :=
  later = row
  ∨ row.relinquishedAt = none ∧ ∃ last, later = { row with relinquishedAt := some last }

/-- What a row becomes, it becomes for good: once closed, it stays as it is. -/
theorem Becomes.trans {row later last : Ownership} (h : row.Becomes later)
    (h' : later.Becomes last)
    : row.Becomes last := by
  rcases h with rfl | ⟨isOpen, closing, rfl⟩
  · exact h'
  · rcases h' with rfl | ⟨again, -⟩
    · exact .inr ⟨isOpen, closing, rfl⟩
    · cases again

/-- A row is given up exactly if it is open. -/
theorem relinquish_eq_ok {row closing : Ownership} {last : Instant}
    : row.relinquish last = .ok closing
      ↔ row.relinquishedAt = none ∧ closing = { row with relinquishedAt := some last } := by
  rw [relinquish, relinquishing, InPlace.apply_get_bind, isActive]
  cases row.relinquishedAt <;> simp [eq_comm]

variable {rows : List Ownership} {row active closing opened : Ownership}

theorem isActive_iff : row.isActive = true ↔ row.relinquishedAt = none := by
  simp [isActive]

/-- An open row is given up without a refusal. -/
theorem relinquish_of_isActive (isOpen : row.isActive = true) {last : Instant}
    : row.relinquish last = .ok { row with relinquishedAt := some last } :=
  relinquish_eq_ok.2 ⟨isActive_iff.1 isOpen, rfl⟩

-----------------------------------------------------------------------------------------
-- How a chain grows
-----------------------------------------------------------------------------------------

theorem chain_nil : Chain [] where
  issued := fun _ member => by cases member
  handed := fun _ member => by cases member
  linked := .nil
  active := rfl
  distinct := List.nodup_nil

/-- The row of an issuance is a chain by itself. -/
theorem chain_issue (instrument : InstrumentId) (owner : CompanyId) (since : Instant)
    (id : OwnershipId)
    : Chain [issue instrument owner since id] where
  issued := fun _ member => by
    cases member
    rfl
  handed := fun _ member => by cases member
  linked := .singleton _
  active := rfl
  distinct := List.nodup_singleton _

/-- The open row of a chain is its last one. -/
theorem Chain.split (h : Chain rows) (member : active ∈ rows)
    (isActive : active.isActive = true)
    : ∃ earlier, rows = earlier ++ [active] := by
  have only : active ∈ rows.getLast?.toList := by
    rw [← h.active]
    exact List.mem_filter.2 ⟨member, isActive⟩
  exact ⟨_, (List.dropLast_append_getLast? active (Option.mem_toList.1 only)).symm⟩

/-- A chain without an open row has no rows. -/
theorem Chain.eq_nil (h : Chain rows) (closed : ∀ row ∈ rows, row.isActive = false)
    : rows = [] := by
  have none : rows.getLast?.toList = [] := by
    rw [← h.active, List.filter_eq_nil_iff]
    intro row member
    rw [closed row member]
    exact Bool.false_ne_true
  rw [← List.getLast?_eq_none_iff, ← Option.toList_eq_nil_iff, none]

/-- The rows before the last one of a chain are closed. -/
theorem Chain.closed {earlier : List Ownership} (h : Chain (earlier ++ [active]))
    (isActive : active.isActive = true)
    : earlier.filter Ownership.isActive = [] := by
  have only := h.active
  rw [List.filter_append, List.getLast?_concat] at only
  simpa [isActive] using only

/-- A chain goes on when its last row is closed for a new one of another owner. -/
theorem Chain.goesOn {earlier : List Ownership} (h : Chain (earlier ++ [active]))
    (isActive : active.isActive = true)
    (closed : closing = { active with relinquishedAt := some opened.acquiredAt })
    (isOpen : opened.isActive = true) (another : active.owner ≠ opened.owner)
    (reason : opened.reason ≠ .issuance)
    (fresh : ∀ row ∈ earlier ++ [active], row.id ≠ opened.id)
    : Chain (earlier ++ [closing, opened]) := by
  subst closed
  have before := List.isChain_append.1 h.linked
  refine {
    issued := fun row first => ?_
    handed := fun row later => ?_
    linked := ?_
    active := ?_
    distinct := ?_
  }
  · cases earlier with
    | nil =>
        cases first
        exact h.issued active rfl
    | cons head rest => exact h.issued row first
  · have handed := h.handed
    cases earlier with
    | nil =>
        cases List.mem_singleton.1 later
        exact reason
    | cons head rest =>
        simp only [List.cons_append, List.tail_cons, List.mem_append, List.mem_cons,
          List.not_mem_nil, or_false] at later handed
        rcases later with old | rfl | rfl
        · exact handed row (.inl old)
        · exact handed active (.inr rfl)
        · exact reason
  · refine List.isChain_append_cons_cons.2 ⟨?_, ⟨rfl, another⟩, .singleton _⟩
    refine List.isChain_append.2 ⟨before.1, .singleton _, fun row last next same => ?_⟩
    cases same
    obtain ⟨closed, another⟩ := before.2.2 row last active rfl
    exact ⟨closed, another⟩
  · rw [List.filter_append, h.closed isActive, List.nil_append, List.getLast?_append]
    simp [Ownership.isActive, isActive_iff.1 isOpen]
  · have same : (earlier ++ [{ active with relinquishedAt := some opened.acquiredAt },
          opened]).map id
        = (earlier ++ [active]).map id ++ [opened.id] := by
      simp
    rw [same]
    refine List.nodup_append.2 ⟨h.distinct, List.nodup_singleton _, ?_⟩
    intro old member new last
    obtain ⟨row, present, rfl⟩ := List.mem_map.1 member
    rw [List.mem_singleton.1 last]
    exact fresh row present

end Ownership

-----------------------------------------------------------------------------------------
-- Ledgers of chains
-----------------------------------------------------------------------------------------

namespace Ledger

/-- A ledger in which the rows of every instrument form a chain. -/
def Chained (l : Ledger) : Prop :=
  ∀ instrument, Ownership.Chain (l.rowsOf instrument)

/-- A ledger some time later: every row is still in its place, and may have been closed. -/
def Grows (l later : Ledger) : Prop :=
  ∀ (index : Nat) (row : Ownership), l.rows[index]? = some row
    → ∃ row', later.rows[index]? = some row' ∧ row.Becomes row'

theorem chained_empty : empty.Chained :=
  fun _ => Ownership.chain_nil

theorem Grows.refl (l : Ledger) : l.Grows l :=
  fun _ row found => ⟨row, found, .inl rfl⟩

variable {l l' : Ledger} {row active closing opened : Ownership}
  {instrument : InstrumentId}

theorem Grows.trans {last : Ledger} (h : l.Grows l') (h' : l'.Grows last)
    : l.Grows last := by
  intro index row found
  obtain ⟨later, found', becomes⟩ := h index row found
  obtain ⟨row', last, becomes'⟩ := h' index later found'
  exact ⟨row', last, becomes.trans becomes'⟩

/-- A ledger grows when rows are added at its end. -/
theorem grows_append (l : Ledger) (rows : List Ownership) : l.Grows ⟨l.rows ++ rows⟩ := by
  intro index row found
  refine ⟨row, ?_, .inl rfl⟩
  rw [List.getElem?_append_left (List.getElem?_eq_some_iff.1 found).1]
  exact found

/-- The first row of an instrument without an owner begins a chain. -/
theorem Chained.issue {owner : CompanyId} {since : Instant} {id : OwnershipId}
    (h : l.Chained) (unowned : l.active? instrument = none)
    (inserted : l.insert (.issue instrument owner since id) = .ok l')
    : l'.Chained ∧ l.Grows l' := by
  obtain ⟨-, -, rfl⟩ := insert_eq_ok.1 inserted
  refine ⟨fun other => ?_, l.grows_append _⟩
  by_cases mine : instrument = other
  · subst mine
    have none : l.rowsOf instrument = [] :=
      (h instrument).eq_nil (active?_eq_none.1 unowned)
    rw [rowsOf_append, none, if_pos (by rfl), List.nil_append]
    exact Ownership.chain_issue instrument owner since id
  · rw [rowsOf_insert_other inserted mine]
    exact h other

/-- The rows of an instrument that is handed on: the open row is the last one, and is
closed in its place.
-/
theorem rowsOf_handed {earlier : List Ownership}
    (rows : l.rowsOf active.instrument = earlier ++ [active])
    (distinct : ((l.rowsOf active.instrument).map Ownership.id).Nodup) (last : Instant)
    : rowsOf ⟨l.replace { active with relinquishedAt := some last }⟩ active.instrument
      = earlier ++ [{ active with relinquishedAt := some last }] := by
  have replaced := l.rowsOf_replace_self { active with relinquishedAt := some last }
  rw [replaced, rows, List.map_append, List.map_singleton, if_pos rfl]
  refine congrArg (· ++ _) ?_
  refine (List.map_congr_left fun row before => if_neg fun same => ?_).trans (List.map_id _)
  rw [rows, List.map_append] at distinct
  exact (List.nodup_append.1 distinct).2.2 row.id (List.mem_map_of_mem before) active.id
    (List.mem_singleton_self _) same

/-- Replacing the open row by its closed form makes a ledger grow. -/
theorem Chained.grows_replace (h : l.Chained) (present : active ∈ l.rows)
    (isOpen : active.relinquishedAt = none) {last : Instant}
    : l.Grows ⟨l.replace { active with relinquishedAt := some last }⟩ := by
  intro index row found
  simp only [replace, List.getElem?_map, found, Option.map_some, Option.some.injEq,
    exists_eq_left']
  split
  · next same =>
      obtain ⟨instrument, id⟩ : row.instrument = active.instrument ∧ row.id = active.id := by
        simpa using same
      have mine : row ∈ l.rowsOf active.instrument :=
        mem_rowsOf.2 ⟨List.mem_of_getElem? found, instrument⟩
      have theirs : active ∈ l.rowsOf active.instrument := mem_rowsOf.2 ⟨present, rfl⟩
      have equal := List.inj_on_of_nodup_map (h active.instrument).distinct mine theirs id
      subst equal
      exact .inr ⟨isOpen, last, rfl⟩
  · exact .inl rfl

/-- A transfer of an instrument from its owner to another company goes on with its chain. -/
theorem Chained.transfer (h : l.Chained) (transferred : l.transfer closing opened = .ok l')
    (owned : l.active? opened.instrument = some active)
    (closed : active.relinquish opened.acquiredAt = .ok closing)
    (another : active.owner ≠ opened.owner) (reason : opened.reason ≠ .issuance)
    : l'.Chained ∧ l.Grows l' := by
  obtain ⟨-, isOpen, -, -, fresh, rfl⟩ := transfer_eq_ok.1 transferred
  obtain ⟨open', rfl⟩ := Ownership.relinquish_eq_ok.1 closed
  have member := active?_mem owned
  obtain ⟨present, instrument⟩ := mem_rowsOf.1 member
  refine ⟨fun other => ?_, (h.grows_replace present open').trans (grows_append _ _)⟩
  by_cases mine : opened.instrument = other
  · subst mine
    obtain ⟨earlier, rows⟩ := (h opened.instrument).split member (active?_isActive owned)
    have chain := h opened.instrument
    have fresh := hasRow_eq_false.1 fresh
    rw [← instrument] at rows chain
    rw [rows] at chain fresh
    rw [rowsOf_append, if_pos rfl, ← instrument,
      rowsOf_handed rows (h _).distinct, ← List.append_cons]
    exact chain.goesOn (active?_isActive owned) rfl isOpen another reason fresh
  · rw [rowsOf_transfer_other transferred mine]
    exact h other

end Ledger

end DebtMarket
