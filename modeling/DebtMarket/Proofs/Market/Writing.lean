import DebtMarket.Market
import DebtMarket.Proofs.Store.Access

/-! Writing to the store directly. Whoever has the store may hand in records and rows of any
form, without asking the rules of the market; each write is accepted or refused as a whole.
What every accepted write keeps, whatever it stores, holds however many were tried.
-/

namespace DebtMarket

namespace Market

/-- The market after some writes were tried, one after another. -/
def writing (m : Market) (writes : List Write) : Market :=
  writes.foldl (fun m w => (m.write w).2) m

variable {m : Market} {w : Write}

@[simp]
theorem writing_nil (m : Market) : m.writing [] = m :=
  rfl

@[simp]
theorem writing_cons (m : Market) (w : Write) (rest : List Write)
    : m.writing (w :: rest) = (m.write w).2.writing rest :=
  rfl

theorem writing_append (m : Market) (earlier later : List Write)
    : m.writing (earlier ++ later) = (m.writing earlier).writing later :=
  List.foldl_append

/-- A write leaves what the store makes of it, or the market as it is. -/
theorem write_eq (m : Market) (w : Write)
    : m.write w
      = match m.store.write w with
        | .ok store => (.ok (), { m with store })
        | .error e => (.error e, m) := by
  rw [write, Store.tried_writing]
  cases m.store.write w <;> rfl

/-- A write is taken by the store, or it is refused and leaves the market as it is. -/
theorem write_cases (m : Market) (w : Write)
    : (∃ s, m.store.write w = .ok s ∧ m.write w = (.ok (), { m with store := s }))
      ∨ ∃ e, m.store.write w = .error e ∧ m.write w = (.error e, m) := by
  cases written : m.store.write w with
  | ok s => exact .inl ⟨s, rfl, by rw [write_eq, written]⟩
  | error e => exact .inr ⟨e, rfl, by rw [write_eq, written]⟩

/-- What every accepted write keeps holds after all writes, by induction on them. -/
theorem writing_invariant {P : Store → Prop}
    (kept : ∀ {s s' : Store} {w : Write}, s.Takes w s' → P s → P s') (holds : P m.store)
    (writes : List Write)
    : P (m.writing writes).store := by
  induction writes generalizing m with
  | nil => exact holds
  | cons w rest ih =>
      have after : P (m.write w).2.store := by
        rcases m.write_cases w with ⟨s, written, answer⟩ | ⟨e, refused, answer⟩
        · rw [answer]
          exact kept (Store.write_takes written) holds
        · rw [answer]
          exact holds
      exact ih after

end Market

end DebtMarket
