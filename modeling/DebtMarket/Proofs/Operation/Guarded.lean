import DebtMarket.Proofs.Operation.Atomicity
import DebtMarket.Proofs.Store.Keeps

/-! Guarded operations. An operation is guarded if its locks cover its write, and if no
answer that it has gone on from can mislead it: whatever others do afterwards, it goes on as
if it had been answered only then, unless the answer decided it at once. An answer that is
protected by the locks is of this kind, and so is one that is asked for again under a lock.
-/

namespace DebtMarket.Operation

variable {α β : Type}

/-- Whatever others do after the answer to a query, going on from it is as good as going on
from the answer given then.
-/
def Lasting (locked : List Scope) (s : Store) (q : Query) (next : q.Answer → Operation α)
    : Prop :=
  ∀ s₁, s.Keeps locked s₁
    → ∀ g, (next (s₁.answer q)).effect g s₁ = (next (s.answer q)).effect g s₁

/-- An operation that is guarded while it keeps some scopes locked. -/
inductive Guarded : List Scope → Store → Operation α → Prop
  | decided {locked s p result} (decided : p.verdict = some result) : Guarded locked s p
  | now {locked s next} (rest : ∀ time, Guarded locked s (next time))
    : Guarded locked s (call .now next)
  | draw {locked s kind next} (rest : ∀ id, Guarded locked s (next id))
    : Guarded locked s (call (.draw kind) next)
  | query {locked s q next}
    (lasting : ∀ s₁, s.Keeps locked s₁
      → (∃ result, (next (s₁.answer q)).verdict = some result) ∨ Lasting locked s₁ q next)
    (rest : ∀ s₁, s.Keeps locked s₁ → Guarded locked s₁ (next (s₁.answer q)))
    : Guarded locked s (call (.query q) next)
  | write {locked s w next} (covered : s.Covers locked w)
    : Guarded locked s (call (.write w) next)
  | lock {locked s scope next}
    (rest : ∀ s₁, s.Keeps locked s₁ → Guarded (scope :: locked) s₁ next)
    : Guarded locked s (lock scope next)

/-- An operation stays guarded whatever others do, by induction on it. -/
theorem Guarded.keeps {locked : List Scope} {s s₁ : Store} {p : Operation α}
    (h : Guarded locked s p) (k : s.Keeps locked s₁)
    : Guarded locked s₁ p := by
  induction h generalizing s₁ with
  | decided decided => exact .decided decided
  | now rest ih => exact .now fun time => ih time k
  | draw rest ih => exact .draw fun id => ih id k
  | query lasting rest ih =>
      exact .query (fun s₂ k₂ => lasting s₂ (k.trans k₂)) fun s₂ k₂ => rest s₂ (k.trans k₂)
  | write covered => exact .write (covered.keeps k)
  | lock rest ih => exact .lock fun s₂ k₂ => rest s₂ (k.trans k₂)

-----------------------------------------------------------------------------------------
-- What the next step of a guarded operation tells about it
-----------------------------------------------------------------------------------------

section Inversion

variable {locked : List Scope} {s : Store}

theorem Guarded.of_now {next : Instant → Operation α}
    (h : Guarded locked s (call .now next)) (time : Instant)
    : Guarded locked s (next time) := by
  cases h with
  | decided decided => cases decided
  | now rest => exact rest time

theorem Guarded.of_draw {kind : IdKind} {next : Id kind → Operation α}
    (h : Guarded locked s (call (.draw kind) next)) (id : Id kind)
    : Guarded locked s (next id) := by
  cases h with
  | decided decided => cases decided
  | draw rest => exact rest id

theorem Guarded.of_query {q : Query} {next : q.Answer → Operation α}
    (h : Guarded locked s (call (.query q) next)) (sound : s.Sound)
    : ((∃ result, (next (s.answer q)).verdict = some result) ∨ Lasting locked s q next)
      ∧ Guarded locked s (next (s.answer q)) := by
  cases h with
  | decided decided => cases decided
  | query lasting rest => exact ⟨lasting s (.refl sound), rest s (.refl sound)⟩

theorem Guarded.of_write {w : Write} {next : Except StoreError Unit → Operation α}
    (h : Guarded locked s (call (.write w) next))
    : s.Covers locked w := by
  cases h with
  | decided decided => cases decided
  | write covered => exact covered

theorem Guarded.of_lock {scope : Scope} {next : Operation α}
    (h : Guarded locked s (Operation.lock scope next)) (sound : s.Sound)
    : Guarded (scope :: locked) s next := by
  cases h with
  | decided decided => cases decided
  | lock rest => exact rest s (.refl sound)

end Inversion

-----------------------------------------------------------------------------------------
-- Locks around an operation and operations after it
-----------------------------------------------------------------------------------------

/-- A verdict stands when one more lock has to be given up, by induction on what is left. -/
theorem verdict_releasing {p : Operation α} {result : Except Failure α}
    (h : p.verdict = some result)
    : p.releasing.verdict = some result := by
  induction p with
  | done a => exact h
  | fail failure => exact h
  | call c next ih =>
      cases c with
      | publish happening time => exact ih () h
      | _ => cases h
  | lock scope next ih => cases h
  | unlock next ih => exact ih h

/-- What has its verdict has one when the result is made known, by induction on what is
left.
-/
theorem verdict_announce {p : Operation (Change α)} {result : Except Failure (Change α)}
    (h : p.verdict = some result)
    : ∃ result', (p.bind announce).verdict = some result' := by
  induction p with
  | done change =>
      obtain ⟨a, notice⟩ := change
      cases notice with
      | none => exact ⟨.ok a, rfl⟩
      | some notice => exact ⟨.ok a, rfl⟩
  | fail failure => exact ⟨.error failure, rfl⟩
  | call c next ih =>
      cases c with
      | publish happening time => exact ih () h
      | _ => cases h
  | lock scope next ih => cases h
  | unlock next ih => exact ih h

/-- What has its verdict has one when the result is renamed, by induction on what is left.
-/
theorem verdict_map {p : Operation α} {result : Except Failure α}
    (h : p.verdict = some result) (f : α → β)
    : ∃ result', (f <$> p).verdict = some result' := by
  induction p with
  | done a => exact ⟨.ok (f a), rfl⟩
  | fail failure => exact ⟨.error failure, rfl⟩
  | call c next ih =>
      cases c with
      | publish happening time => exact ih () h
      | _ => cases h
  | lock scope next ih => cases h
  | unlock next ih => exact ih h

/-- An operation under a lock is guarded as one that gives the lock up, by induction on it.
-/
theorem Guarded.releasing {locked : List Scope} {s : Store} {p : Operation α}
    (h : Guarded locked s p)
    : Guarded locked s p.releasing := by
  induction h with
  | decided decided => exact .decided (verdict_releasing decided)
  | now rest ih => exact .now ih
  | draw rest ih => exact .draw ih
  | query lasting rest ih =>
      refine .query (fun s₁ k => ?_) ih
      rcases lasting s₁ k with ⟨result, decided⟩ | lasting
      · exact .inl ⟨result, verdict_releasing decided⟩
      · refine .inr fun s₂ k₂ g => ?_
        simp only [effect_releasing]
        exact lasting s₂ k₂ g
  | write covered => exact .write covered
  | lock rest ih => exact .lock ih

/-- An operation stays guarded when something decided comes after it, by induction on it. -/
theorem Guarded.bind {locked : List Scope} {s : Store} {p : Operation α}
    {f : α → Operation β} (h : Guarded locked s p)
    (decides : ∀ {q : Operation α} {result}, q.verdict = some result
      → ∃ result', (q.bind f).verdict = some result')
    : Guarded locked s (p.bind f) := by
  induction h with
  | decided decided =>
      obtain ⟨result', decided'⟩ := decides decided
      exact .decided decided'
  | now rest ih => exact .now ih
  | draw rest ih => exact .draw ih
  | query lasting rest ih =>
      refine .query (fun s₁ k => ?_) ih
      rcases lasting s₁ k with ⟨result, decided⟩ | lasting
      · exact .inl (decides decided)
      · refine .inr fun s₂ k₂ g => ?_
        simp only [effect_bind, lasting s₂ k₂ g]
  | write covered => exact .write covered
  | lock rest ih => exact .lock ih

theorem Guarded.map {locked : List Scope} {s : Store} {p : Operation α}
    (h : Guarded locked s p) (f : α → β)
    : Guarded locked s (f <$> p) :=
  h.bind fun decided => verdict_map decided f

theorem Guarded.locking {locked : List Scope} {scope : Scope} {s : Store}
    {body : Operation α}
    (rest : ∀ s₁, s.Keeps locked s₁ → Guarded (scope :: locked) s₁ body)
    : Guarded locked s (locking scope body) :=
  .lock fun s₁ k => (rest s₁ k).releasing

theorem Guarded.changing {locked : List Scope} {scope : Scope} {s : Store}
    {body : Operation (Change α)}
    (rest : ∀ s₁, s.Keeps locked s₁ → Guarded (scope :: locked) s₁ body)
    : Guarded locked s (changing scope body) :=
  (Guarded.locking rest).bind verdict_announce

-----------------------------------------------------------------------------------------
-- Steps in front of an operation
-----------------------------------------------------------------------------------------

section Steps

variable {locked : List Scope} {s : Store}

theorem Guarded.pure (a : α) : Guarded locked s (Pure.pure a : Operation α) :=
  .decided rfl

theorem Guarded.refuse (e : MarketError)
    : Guarded locked s (Operation.refuse e : Operation α) :=
  .decided rfl

theorem Guarded.ite {c : Prop} [Decidable c] {p q : Operation α}
    (hp : c → Guarded locked s p) (hq : ¬c → Guarded locked s q)
    : Guarded locked s (if c then p else q) := by
  split
  · next h => exact hp h
  · next h => exact hq h

theorem Guarded.ite_bind {c : Prop} [Decidable c] {p q : Operation β}
    {k : β → Operation α} (hp : c → Guarded locked s (p >>= k))
    (hq : ¬c → Guarded locked s (q >>= k))
    : Guarded locked s ((if c then p else q) >>= k) := by
  split
  · next h => exact hp h
  · next h => exact hq h

theorem Guarded.now_bind {k : Instant → Operation α}
    (rest : ∀ time, Guarded locked s (k time))
    : Guarded locked s (Operation.now >>= k) :=
  .now rest

theorem Guarded.draw_bind {kind : IdKind} {k : Id kind → Operation α}
    (rest : ∀ id, Guarded locked s (k id))
    : Guarded locked s (Operation.draw kind >>= k) :=
  .draw rest

theorem Guarded.check_bind {outcome : Except MarketError β} {k : β → Operation α}
    (rest : ∀ b, outcome = .ok b → Guarded locked s (k b))
    : Guarded locked s (check outcome >>= k) := by
  cases outcome with
  | error e => exact Guarded.refuse e
  | ok b => exact rest b rfl

theorem Guarded.discard_bind {p : Operation β} {k : PUnit → Operation α}
    (h : Guarded locked s (p >>= fun _ => k ⟨⟩))
    : Guarded locked s (discard p >>= k) := by
  rw [Operation.discard_bind]
  exact h

theorem Guarded.save_bind {w : Write} {k : Unit → Operation α}
    (covered : s.Covers locked w)
    : Guarded locked s (save w >>= k) := by
  rw [Operation.save_bind]
  exact .write covered

/-- An answer that is protected by the locks is the same whatever others do. -/
theorem Guarded.pinned_bind {q : Query} {k : q.Answer → Operation α}
    (pinned : ∀ s₁ s₂, s.Keeps locked s₁ → s₁.Keeps locked s₂
      → s₂.answer q = s₁.answer q)
    (rest : ∀ s₁, s.Keeps locked s₁ → Guarded locked s₁ (k (s₁.answer q)))
    : Guarded locked s (Operation.query q >>= k) := by
  refine .query (fun s₁ keeps => .inr fun s₂ keeps₂ g => ?_) rest
  rw [pinned s₁ s₂ keeps keeps₂]

end Steps

end DebtMarket.Operation
