import DebtMarket.Proofs.Market.Run
import DebtMarket.Proofs.Ownership.Guard

/-! How stored rows change. A row stays in its place under the identifier of its instrument, and
once it is closed it stays as it is for good. An open row makes way for the one that closes it,
which the ledger takes as it is handed in. So rows are closed and change in no other way exactly
as long as every transfer hands in the open row itself, closed.
-/

namespace DebtMarket

namespace Ownership

/-- A row some time later, whoever wrote to the ledger: it is as it was, or it was open and a
closed row has taken its place under its identifier.
-/
def Endures (row later : Ownership) : Prop :=
  later = row
  ∨ row.isActive = true ∧ later.isActive = false ∧ later.id = row.id
    ∧ later.instrument = row.instrument

variable {row active closing later last : Ownership}

theorem Endures.trans (h : row.Endures later) (h' : later.Endures last)
    : row.Endures last := by
  rcases h with rfl | ⟨isOpen, closed, id, instrument⟩
  · exact h'
  · rcases h' with rfl | ⟨again, -⟩
    · exact .inr ⟨isOpen, closed, id, instrument⟩
    · rw [closed] at again
      cases again

/-- A closed row stays as it is. -/
theorem Endures.eq_of_closed (h : row.Endures later) (closed : row.isActive = false)
    : later = row := by
  rcases h with same | ⟨isOpen, -⟩
  · exact same
  · rw [closed] at isOpen
    cases isOpen

end Ownership

namespace Ledger

/-- A ledger some time later, whoever wrote to it: every row endures in its place. -/
def Endures (l later : Ledger) : Prop :=
  Persists Ownership.Endures l.rows later.rows

theorem Endures.refl (l : Ledger) : l.Endures l :=
  persists_refl (fun _ => .inl rfl) l.rows

variable {l l' later : Ledger} {row active closing opened : Ownership}

theorem Endures.trans {last : Ledger} (h : l.Endures l') (h' : l'.Endures last)
    : l.Endures last :=
  Persists.trans Ownership.Endures.trans h h'

-----------------------------------------------------------------------------------------
-- Rows over a transfer
-----------------------------------------------------------------------------------------

/-- A row under the identifier of the open row of its instrument is that row. -/
theorem Guarded.eq_active (h : l.Guarded)
    (owned : l.active? closing.instrument = some active) (id : closing.id = active.id)
    (stored : row ∈ l.rows)
    (here : (row.instrument == closing.instrument && row.id == closing.id) = true)
    : row = active := by
  simp only [Bool.and_eq_true, beq_iff_eq] at here
  exact List.inj_on_of_nodup_map (h closing.instrument).distinct
    (mem_rowsOf.2 ⟨stored, here.1⟩) (active?_mem owned) (here.2.trans id)

/-- The rows persist over a transfer as what any relation lets them become that lets the open
row become the one that closes it: all others are kept in their places.
-/
theorem Guarded.persists {R : Ownership → Ownership → Prop} (refl : ∀ row, R row row)
    (h : l.Guarded) (transferred : l.transfer closing opened = .ok l')
    (becomes : ∀ active ∈ l.active? closing.instrument, R active closing)
    : Persists R l.rows l'.rows := by
  obtain ⟨-, -, -, ⟨active, owned, id⟩, -⟩ := h.exchanges_iff.2 ⟨l', transferred⟩
  obtain ⟨-, -, -, -, -, rfl⟩ := transfer_eq_ok.1 transferred
  refine Persists.append (persists_map fun row stored => ?_) [opened]
  split
  · next here =>
      rw [h.eq_active owned id stored here]
      exact becomes active owned
  · exact refl row

/-- Every row endures a transfer. -/
theorem Guarded.endures (h : l.Guarded) (transferred : l.transfer closing opened = .ok l')
    : l.Endures l' := by
  refine h.persists (fun _ => .inl rfl) transferred fun active owned => .inr ?_
  obtain ⟨closed, -, -, ⟨active', owned', id⟩, -⟩ := h.exchanges_iff.2 ⟨l', transferred⟩
  obtain rfl : active' = active := Option.some.inj (owned'.symm.trans owned)
  obtain ⟨-, instrument⟩ := mem_rowsOf.1 (active?_mem owned')
  exact ⟨active?_isActive owned', closed, id, instrument.symm⟩

/-- A ledger grows over a transfer that hands in the open row itself, closed. -/
theorem Guarded.grows (h : l.Guarded) (transferred : l.transfer closing opened = .ok l')
    (becomes : ∀ active ∈ l.active? closing.instrument, active.Becomes closing)
    : l.Grows l' :=
  h.persists (fun _ => .inl rfl) transferred becomes

/-- The row that closes another one takes its place, and keeps it for good: if the ledger has
grown in the end, then the closing row was the open row itself, closed.
-/
theorem Guarded.becomes_of_grows (h : l.Guarded)
    (transferred : l.transfer closing opened = .ok l') (endures : l'.Endures later)
    (grows : l.Grows later) (owned : l.active? closing.instrument = some active)
    : active.Becomes closing := by
  obtain ⟨closed, -, -, ⟨active', owned', id⟩, -⟩ := h.exchanges_iff.2 ⟨l', transferred⟩
  obtain rfl : active' = active := Option.some.inj (owned'.symm.trans owned)
  obtain ⟨stored, instrument⟩ := mem_rowsOf.1 (active?_mem owned)
  obtain ⟨index, found⟩ := List.mem_iff_getElem?.1 stored
  have taken : l'.rows[index]? = some closing := by
    obtain ⟨-, -, -, -, -, rfl⟩ := transfer_eq_ok.1 transferred
    have bound := (List.getElem?_eq_some_iff.1 found).1
    rw [List.getElem?_append_left (by simpa [replace] using bound)]
    simp [replace, found, instrument, id]
  obtain ⟨row, last, becomes⟩ := grows index active' found
  obtain ⟨row', last', endures⟩ := endures index closing taken
  obtain rfl : row' = row := Option.some.inj (last'.symm.trans last)
  rw [← endures.eq_of_closed closed]
  exact becomes

end Ledger

namespace Store

variable {s s' : Store} {w : Write}

/-- Every row endures every accepted write, by cases on the write. -/
theorem Takes.endures (h : s.Takes w s') (guarded : s.ledger.Guarded)
    : s.ledger.Endures s'.ledger := by
  cases h with
  | row inserted =>
      obtain ⟨-, -, rfl⟩ := Ledger.insert_eq_ok.1 inserted
      exact (Ledger.Endures.refl s.ledger).append _
  | transfer transferred => exact guarded.endures transferred
  | _ => exact .refl _

/-- The ledger grows over every accepted write but a transfer that hands in another row than
the open one, by cases on the write.
-/
theorem Takes.grows (h : s.Takes w s') (guarded : s.ledger.Guarded)
    (becomes
      : ∀ closing opened, w = .transfer closing opened
        → ∀ active ∈ s.ledger.active? closing.instrument, active.Becomes closing)
    : s.ledger.Grows s'.ledger := by
  cases h with
  | row inserted =>
      obtain ⟨-, -, rfl⟩ := Ledger.insert_eq_ok.1 inserted
      exact Ledger.grows_append _ _
  | transfer transferred => exact guarded.grows transferred (becomes _ _ rfl)
  | _ => exact .refl _

end Store

namespace Market

variable {m : Market}

/-- Every row endures all writes. -/
theorem writing_endures (guarded : m.store.ledger.Guarded) (writes : List Write)
    : m.store.ledger.Endures (m.writing writes).store.ledger := by
  have invariant := writing_invariant (m := m)
    (P := fun s => s.ledger.Guarded ∧ m.store.ledger.Endures s.ledger)
    (fun takes ⟨guarded, endures⟩ =>
      ⟨takes.guarded guarded, endures.trans (takes.endures guarded)⟩)
    ⟨guarded, .refl _⟩ writes
  exact invariant.2

/-- The ledger grows over writes each transfer of which that is let pass hands in the open row
itself, closed: by induction on them.
-/
theorem writing_grows (guarded : m.store.ledger.Guarded) (writes : List Write)
    (becomes
      : ∀ earlier closing opened, earlier ++ [.transfer closing opened] <+: writes
        → (m.writing earlier).store.ledger.Exchanges closing opened
        → ∀ active ∈ (m.writing earlier).store.ledger.active? closing.instrument,
            active.Becomes closing)
    : m.store.ledger.Grows (m.writing writes).store.ledger := by
  induction writes using List.reverseRecOn with
  | nil => exact .refl _
  | append_singleton earlier w ih =>
      have before : m.store.ledger.Grows (m.writing earlier).store.ledger :=
        ih fun moment closing opened shorter =>
          becomes moment closing opened (shorter.trans (List.prefix_append _ _))
      have guarded' := writing_guarded guarded earlier
      rw [writing_append, writing_cons, writing_nil]
      rcases (m.writing earlier).write_cases w with
        ⟨s, written, answer⟩ | ⟨e, refused, answer⟩
      · rw [answer]
        refine before.trans ((Store.write_takes written).grows guarded' ?_)
        rintro closing opened rfl
        obtain ⟨l, transferred, -⟩ := Store.write_transfer_eq_ok.1 written
        exact becomes earlier closing opened (List.prefix_refl _)
          (guarded'.exchanges_iff.2 ⟨l, transferred⟩)
      · rw [answer]
        exact before

/-- Whatever is written, every row stays in its place under the identifier of its instrument,
and stays as it is once it is closed. Rows are closed and change in no other way exactly if
every transfer that is let pass hands in the open row itself, closed.
-/
theorem rows_endure (clock : Instant) (threshold : Nat) (outlet : Outlet)
    (source : IdKind → Nat → Uuid) (writes : List Write)
    : let ledger moment := ((start clock threshold outlet source).writing moment).store.ledger
      (∀ moment, moment <+: writes → (ledger moment).Endures (ledger writes))
      ∧ ((∀ moment, moment <+: writes → (ledger moment).Grows (ledger writes))
        ↔ ∀ earlier closing opened, earlier ++ [.transfer closing opened] <+: writes
            → (ledger earlier).Exchanges closing opened
            → ∀ active ∈ (ledger earlier).active? closing.instrument,
                active.Becomes closing) := by
  intro ledger
  have guarded (moment : List Write) : (ledger moment).Guarded :=
    writing_guarded Ledger.guarded_empty moment
  have endures (moment : List Write) (reached : moment <+: writes)
      : (ledger moment).Endures (ledger writes) := by
    obtain ⟨rest, rfl⟩ := reached
    have lasting := writing_endures (guarded moment) rest
    rwa [← writing_append] at lasting
  refine ⟨endures, fun grows earlier closing opened reached exchanges active owned => ?_,
    fun becomes moment reached => ?_⟩
  · obtain ⟨l, transferred⟩ := (guarded earlier).exchanges_iff.1 exchanges
    have after : ledger (earlier ++ [.transfer closing opened]) = l := by
      have written := Store.write_transfer_eq_ok.2 ⟨l, transferred, rfl⟩
      simp only [ledger] at written ⊢
      rw [writing_append, writing_cons, writing_nil, write_eq, written]
    have later := grows earlier ((List.prefix_append _ _).trans reached)
    exact (guarded earlier).becomes_of_grows transferred (after ▸ endures _ reached) later owned
  · obtain ⟨rest, rfl⟩ := reached
    have growing := writing_grows (guarded moment) rest
      fun earlier closing opened shorter exchanges => by
        rw [← writing_append] at exchanges ⊢
        refine becomes (moment ++ earlier) closing opened ?_ exchanges
        rw [List.append_assoc]
        exact (List.prefix_append_right_inj moment).2 shorter
    rwa [← writing_append] at growing

namespace Sample

/-- The first row of an instrument. -/
def issuedRow : Ownership :=
  .issue ⟨⟨0⟩⟩ ⟨⟨1⟩⟩ newYear ⟨⟨0⟩⟩

/-- The same row closed, but of another owner. -/
def forgedRow : Ownership :=
  { issuedRow with owner := ⟨⟨3⟩⟩, relinquishedAt := some newYear }

/-- The row of the next owner. -/
def boughtRow : Ownership :=
  .acquire ⟨⟨0⟩⟩ ⟨⟨2⟩⟩ newYear .trade ⟨⟨1⟩⟩

end Sample

/-- A transfer that hands in the open row under another owner is let pass, and changes who
owned the instrument before.
-/
theorem owner_rewritten
    : let m := start Sample.newYear 0 .unbounded fun _ n => ⟨BitVec.ofNat 128 n⟩
      let issued := m.writing [.row Sample.issuedRow]
      ¬issued.store.ledger.Grows
        (issued.writing [.transfer Sample.forgedRow Sample.boughtRow]).store.ledger := by
  intro m issued grows
  obtain ⟨row, last, becomes⟩ := grows 0 Sample.issuedRow (by decide)
  have stored : (issued.writing
        [.transfer Sample.forgedRow Sample.boughtRow]).store.ledger.rows[0]?
      = some Sample.forgedRow := by decide
  obtain rfl : Sample.forgedRow = row := Option.some.inj (stored.symm.trans last)
  have another : Sample.forgedRow.owner ≠ Sample.issuedRow.owner := by decide
  rcases becomes with same | ⟨-, last, same⟩
  · exact another (same ▸ rfl)
  · rw [same] at another
    exact another rfl

end Market

end DebtMarket
