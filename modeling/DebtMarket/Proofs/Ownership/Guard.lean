import DebtMarket.Proofs.Market.Writing
import DebtMarket.Proofs.Ownership.Chain

/-! The guard of the ledger. Rows may be handed to the ledger in any form: closed already, of
any instrument, under identifiers that are in use. Whatever it takes, no instrument comes to
have two open rows, and no two rows of an instrument share an identifier. So a transfer is
accepted exactly if it closes the open row under its identifier, and leaves the row that it
opens as the only open one.
-/

namespace DebtMarket

namespace Ownership

/-- Rows of which one at most is open, and no two of which share an identifier. -/
structure Guarded (rows : List Ownership) : Prop where
  single : (rows.filter isActive).length ≤ 1
  distinct : (rows.map id).Nodup

variable {rows : List Ownership} {row active closing : Ownership}

theorem guarded_nil : Guarded [] :=
  ⟨Nat.zero_le 1, List.nodup_nil⟩

/-- An open row is the only one. -/
theorem Guarded.open_unique (h : Guarded rows) (member : active ∈ rows)
    (isOpen : active.isActive = true)
    : rows.filter isActive = [active] := by
  rw [filter_eq_find? h.single, (find?_eq_some_of_single h.single).2 ⟨member, isOpen⟩]
  rfl

/-- A row of a new identifier may be added, unless it is open and another one is. -/
theorem Guarded.append (h : Guarded rows) (fresh : ∀ other ∈ rows, other.id ≠ row.id)
    (alone : row.isActive = true → rows.filter isActive = [])
    : Guarded (rows ++ [row]) := by
  constructor
  · rw [List.filter_append]
    cases isOpen : row.isActive with
    | false => simpa [isOpen] using h.single
    | true => simp [alone isOpen, isOpen]
  · rw [List.map_append, List.map_singleton]
    refine List.nodup_append.2 ⟨h.distinct, List.nodup_singleton _, ?_⟩
    intro id member other last
    obtain ⟨before, present, rfl⟩ := List.mem_map.1 member
    rw [List.mem_singleton.1 last]
    exact fresh before present

/-- A closed row may take the place of the open one under its identifier; then none is open. -/
theorem Guarded.close (h : Guarded rows) (member : active ∈ rows)
    (isOpen : active.isActive = true) (same : closing.id = active.id)
    (closed : closing.isActive = false)
    : let later := rows.map fun row => if row.id = closing.id then closing else row
      Guarded later ∧ later.filter isActive = [] := by
  intro later
  have none : later.filter isActive = [] := by
    simp only [List.filter_eq_nil_iff, later, List.mem_map, Bool.not_eq_true]
    rintro _ ⟨row, present, rfl⟩
    split
    · exact closed
    · next other =>
        cases second : row.isActive with
        | false => rfl
        | true =>
            -- a second open row would be the one that is closed here
            have among := List.mem_filter.2 ⟨present, second⟩
            rw [h.open_unique member isOpen, List.mem_singleton] at among
            exact absurd (among ▸ same.symm) other
  refine ⟨⟨by simp [none], ?_⟩, none⟩
  have ids : later.map id = rows.map id := by
    rw [List.map_map]
    refine List.map_congr_left fun row _ => ?_
    simp only [Function.comp]
    split
    · next here => exact here.symm
    · rfl
  rw [ids]
  exact h.distinct

end Ownership

namespace Ledger

/-- A ledger in which the rows of every instrument are guarded. -/
def Guarded (l : Ledger) : Prop :=
  ∀ instrument, Ownership.Guarded (l.rowsOf instrument)

/-- A row that the ledger lets in: its identifier is new to its instrument, and if it is open,
no other row is.
-/
structure Admits (l : Ledger) (row : Ownership) : Prop where
  fresh : ∀ other ∈ l.rowsOf row.instrument, other.id ≠ row.id
  alone : row.isActive = true → l.active? row.instrument = none

/-- A transfer that the ledger lets pass: it closes the open row of an instrument under its
identifier, and opens a row of the instrument under a new one.
-/
structure Exchanges (l : Ledger) (closing opened : Ownership) : Prop where
  closed : closing.isActive = false
  isOpen : opened.isActive = true
  same : closing.instrument = opened.instrument
  owned : ∃ active, l.active? closing.instrument = some active ∧ closing.id = active.id
  fresh : ∀ row ∈ l.rowsOf opened.instrument, row.id ≠ opened.id

theorem guarded_empty : empty.Guarded :=
  fun _ => Ownership.guarded_nil

variable {l l' : Ledger} {row active closing opened : Ownership}
  {instrument : InstrumentId}

/-- The open rows of an instrument are the one that is found, or none. -/
theorem Guarded.filter_isActive (h : l.Guarded) (instrument : InstrumentId)
    : (l.rowsOf instrument).filter Ownership.isActive = (l.active? instrument).toList :=
  filter_eq_find? (h instrument).single

/-- A row is found to be the open one of its instrument exactly if it is open. -/
theorem Guarded.active?_eq_some (h : l.Guarded)
    : l.active? instrument = some row ↔ row ∈ l.rowsOf instrument ∧ row.isActive = true :=
  find?_eq_some_of_single (h instrument).single

/-- A row is let in exactly if the ledger takes it. -/
theorem admits_iff : l.Admits row ↔ ∃ l', l.insert row = .ok l' := by
  simp only [insert_eq_ok, hasRow_eq_false, exists_and_left, exists_eq, and_true]
  exact ⟨fun ⟨fresh, alone⟩ => ⟨fresh, alone⟩, fun ⟨fresh, alone⟩ => ⟨fresh, alone⟩⟩

/-- A transfer is let pass exactly if the ledger makes it: the row that it finds under the
identifier of the closing one is open just if it is the open row of the instrument.
-/
theorem Guarded.exchanges_iff (h : l.Guarded)
    : l.Exchanges closing opened ↔ ∃ l', l.transfer closing opened = .ok l' := by
  simp only [transfer_eq_ok, hasRow_eq_false, exists_and_left, exists_eq, and_true]
  constructor
  · rintro ⟨closed, isOpen, same, ⟨active, owned, id⟩, fresh⟩
    refine ⟨closed, isOpen, same, ⟨active, ?_, active?_isActive owned⟩, same ▸ fresh⟩
    rw [id]
    exact find?_of_nodup (h closing.instrument).distinct (active?_mem owned)
  · rintro ⟨closed, isOpen, same, ⟨active, found, isOpen'⟩, fresh⟩
    have id : active.id = closing.id := by simpa using List.find?_some found
    have member := List.mem_of_find?_eq_some found
    exact ⟨closed, isOpen, same, ⟨active, h.active?_eq_some.2 ⟨member, isOpen'⟩, id.symm⟩,
      same ▸ fresh⟩

-----------------------------------------------------------------------------------------
-- What the ledger becomes
-----------------------------------------------------------------------------------------

/-- A row that is let in keeps the ledger guarded. -/
theorem Guarded.insert (h : l.Guarded) (inserted : l.insert row = .ok l') : l'.Guarded := by
  intro instrument
  by_cases mine : row.instrument = instrument
  · subst mine
    obtain ⟨fresh, alone, rfl⟩ := insert_eq_ok.1 inserted
    rw [rowsOf_append, if_pos rfl]
    refine (h row.instrument).append (hasRow_eq_false.1 fresh) fun isOpen => ?_
    rw [h.filter_isActive]
    simp [alone isOpen]
  · rw [rowsOf_insert_other inserted mine]
    exact h instrument

/-- A transfer keeps the ledger guarded, and leaves the row that it opens as the only open row
of its instrument.
-/
theorem Guarded.transfer (h : l.Guarded) (transferred : l.transfer closing opened = .ok l')
    : l'.Guarded
      ∧ (l'.rowsOf opened.instrument).filter Ownership.isActive = [opened] := by
  obtain ⟨closed, isOpen, same, ⟨active, owned, id⟩, fresh⟩ :=
    h.exchanges_iff.2 ⟨l', transferred⟩
  obtain ⟨-, -, -, -, -, ledger⟩ := transfer_eq_ok.1 transferred
  obtain ⟨guarded, none⟩ := (h closing.instrument).close (active?_mem owned)
    (active?_isActive owned) id closed
  have rows : l'.rowsOf opened.instrument
      = (l.rowsOf closing.instrument).map (fun row =>
          if row.id = closing.id then closing else row) ++ [opened] := by
    rw [ledger, rowsOf_append, if_pos rfl, ← same, rowsOf_replace_self]
  refine ⟨fun instrument => ?_, ?_⟩
  · by_cases mine : opened.instrument = instrument
    · subst mine
      rw [rows]
      refine guarded.append (fun row later => ?_) fun _ => none
      obtain ⟨row, member, rfl⟩ := List.mem_map.1 later
      split
      · next here => exact here ▸ fresh row (same ▸ member)
      · exact fresh row (same ▸ member)
    · rw [rowsOf_transfer_other transferred mine]
      exact h instrument
  · rw [rows, List.filter_append, none]
    simp [isOpen]

/-- What a row that is let in makes of the ledger. -/
structure Gains (l : Ledger) (row : Ownership) (l' : Ledger) : Prop where
  rows : l'.rowsOf row.instrument = l.rowsOf row.instrument ++ [row]
  others
    : ∀ instrument, instrument ≠ row.instrument
      → l'.rowsOf instrument = l.rowsOf instrument

/-- What a transfer makes of the ledger. -/
structure Succeeds (l : Ledger) (opened : Ownership) (l' : Ledger) : Prop where
  active : (l'.rowsOf opened.instrument).filter Ownership.isActive = [opened]
  longer : (l'.rowsOf opened.instrument).length = (l.rowsOf opened.instrument).length + 1
  others
    : ∀ instrument, instrument ≠ opened.instrument
      → l'.rowsOf instrument = l.rowsOf instrument

theorem gains_of_insert (inserted : l.insert row = .ok l') : l.Gains row l' := by
  refine ⟨?_, fun instrument other => rowsOf_insert_other inserted (Ne.symm other)⟩
  obtain ⟨-, -, rfl⟩ := insert_eq_ok.1 inserted
  rw [rowsOf_append, if_pos rfl]

theorem Guarded.succeeds (h : l.Guarded) (transferred : l.transfer closing opened = .ok l')
    : l.Succeeds opened l' := by
  refine ⟨(h.transfer transferred).2, ?_, fun instrument other =>
    rowsOf_transfer_other transferred (Ne.symm other)⟩
  obtain ⟨-, -, same, -, -, rfl⟩ := transfer_eq_ok.1 transferred
  rw [rowsOf_append, if_pos rfl, ← same, rowsOf_replace_self]
  simp

end Ledger

namespace Store

variable {s s' : Store} {w : Write}

/-- Every accepted write keeps the ledger guarded, by cases on the write. -/
theorem Takes.guarded (h : s.Takes w s') (guarded : s.ledger.Guarded) : s'.ledger.Guarded := by
  cases h with
  | row inserted => exact guarded.insert inserted
  | transfer transferred => exact (guarded.transfer transferred).1
  | _ => exact guarded

end Store

namespace Market

/-- Whatever is written to it, a guarded ledger stays guarded. -/
theorem writing_guarded {m : Market} (guarded : m.store.ledger.Guarded) (writes : List Write)
    : (m.writing writes).store.ledger.Guarded :=
  writing_invariant (fun takes => takes.guarded) guarded writes

/-- Whatever was written before, every instrument has one open row at most and no two rows of
one identifier. A row or a transfer is either let in, and adds just what it says, or it is
refused and leaves the market as it is.
-/
theorem ledger_guarded (clock : Instant) (threshold : Nat) (outlet : Outlet)
    (source : IdKind → Nat → Uuid) (writes : List Write)
    : let m := (start clock threshold outlet source).writing writes
      let ledger := m.store.ledger
      ledger.Guarded
      ∧ (∀ row,
          match m.write (.row row) with
          | (.ok (), m') => ledger.Admits row ∧ ledger.Gains row m'.store.ledger
          | (.error _, m') => ¬ledger.Admits row ∧ m' = m)
      ∧ ∀ closing opened,
          match m.write (.transfer closing opened) with
          | (.ok (), m') =>
              ledger.Exchanges closing opened ∧ ledger.Succeeds opened m'.store.ledger
          | (.error _, m') => ¬ledger.Exchanges closing opened ∧ m' = m := by
  intro m ledger
  have guarded : ledger.Guarded := writing_guarded Ledger.guarded_empty writes
  refine ⟨guarded, fun row => ?_, fun closing opened => ?_⟩
  · rcases m.write_cases (.row row) with ⟨s, written, answer⟩ | ⟨e, refused, answer⟩
    · obtain ⟨l, inserted, rfl⟩ := Store.write_row_eq_ok.1 written
      rw [answer]
      exact ⟨Ledger.admits_iff.2 ⟨l, inserted⟩, Ledger.gains_of_insert inserted⟩
    · rw [answer]
      refine ⟨fun admits => ?_, rfl⟩
      obtain ⟨l, inserted⟩ := Ledger.admits_iff.1 admits
      rw [Store.write_row_eq_ok.2 ⟨l, inserted, rfl⟩] at refused
      cases refused
  · rcases m.write_cases (.transfer closing opened) with
      ⟨s, written, answer⟩ | ⟨e, refused, answer⟩
    · obtain ⟨l, transferred, rfl⟩ := Store.write_transfer_eq_ok.1 written
      rw [answer]
      exact ⟨guarded.exchanges_iff.2 ⟨l, transferred⟩, guarded.succeeds transferred⟩
    · rw [answer]
      refine ⟨fun exchanges => ?_, rfl⟩
      obtain ⟨l, transferred⟩ := guarded.exchanges_iff.1 exchanges
      rw [Store.write_transfer_eq_ok.2 ⟨l, transferred, rfl⟩] at refused
      cases refused

end Market

end DebtMarket
