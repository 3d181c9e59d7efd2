import DebtMarket.Proofs.Command.Performs
import DebtMarket.Proofs.Floor.Consistency

/-! What a turn makes of the store. A task changes the store at most when it takes effect,
and then its command has succeeded in one of its ways: a turn does not touch the store or
commits one command by its one write. Whatever all such writes keep is kept by every schedule.
-/

namespace DebtMarket

/-- A store that some command makes of another one by its write. -/
def Store.Yields (s s' : Store) : Prop :=
  ∃ g c outcome w notice, Performs g s c outcome (some w) notice ∧ s.write w = .ok s'

theorem Command.Yields.store {c : Command} {s s' : Store} (h : c.Yields s s')
    : s.Yields s' := by
  obtain ⟨g, written⟩ := h
  exact ⟨g, c, written⟩

/-- The opening of a request leaves the store alone or makes one write. -/
theorem Command.opening_store (c : Command) (g : Given) (s : Store)
    : (c.opening.operation.effect g s).store = s
      ∨ c.opening.Yields s (c.opening.operation.effect g s).store := by
  obtain ⟨failure, idle⟩ | ⟨outcome, w, notice, s', performs, wrote, ends⟩ :=
    c.effect_opening g s
  · exact .inl (by rw [idle, Effect.idle_store])
  · rw [ends]
    cases w with
    | none => exact .inl wrote
    | some w => exact .inr ⟨g, outcome, w, notice, performs, wrote⟩

/-- A task that moves leaves the store alone or makes one write: if the move decides the
task, then what its whole command would have written.
-/
theorem Task.Moves.store {t t' : Task} {s s' : Store} (h : t.Moves s t' s')
    (clock : Instant)
    : s' = s ∨ t.command.Yields s s' := by
  cases before : t.verdict? with
  | some result => exact .inl (h.decided result before).2.2
  | none =>
      cases now : t'.verdict? with
      | none => exact .inl (h.undecided before now)
      | some result =>
          have agrees := t'.drawn.agrees_given clock
          obtain ⟨notices, effect⟩ := h.effect result before now _ agrees
          have wrote := t.request.opening_store (t'.drawn.given clock) s
          rwa [← Task.command, effect] at wrote

namespace Floor

/-- A turn is the step of a task by which its command changes the store. -/
structure Commits (f : Floor) (turn : Turn) (c : Command) : Prop where
  carried : ∃ index t, turn = .step index ∧ f.tasks[index]? = some t ∧ t.command = c
  yields : c.Yields f.market.store (f.after turn).market.store

variable {f : Floor}

/-- A turn commits one command at most. -/
theorem Commits.unique {turn : Turn} {c c' : Command} (h : f.Commits turn c)
    (h' : f.Commits turn c')
    : c' = c := by
  obtain ⟨index, t, rfl, found, rfl⟩ := h.carried
  obtain ⟨other, t', same, found', rfl⟩ := h'.carried
  cases same
  cases found.symm.trans found'
  rfl

/-- A turn leaves the store alone or commits one command, by cases on the turn. -/
theorem Consistent.after_commits (h : f.Consistent) (turn : Turn)
    : (f.after turn).market.store = f.market.store ∨ ∃ c, f.Commits turn c := by
  cases turn with
  | request c => exact .inl rfl
  | setClock now => exact .inl rfl
  | proceed index =>
      left
      simp only [Floor.after]
      split
      · split <;> rfl
      · rfl
  | step index =>
      cases found : f.tasks[index]? with
      | none =>
          left
          simp only [Floor.after, change, found]
      | some t =>
          have moves := (h.tasks t (List.mem_of_getElem? found)).step h.sound
          have after : (f.after (.step index)).market.store = (t.step f.market).2.store := by
            simp only [Floor.after, change, found]
          rw [after]
          rcases moves.store f.market.clock with same | yields
          · exact .inl same
          · exact .inr ⟨t.command, ⟨index, t, rfl, found, rfl⟩, after ▸ yields⟩
  | drop index =>
      left
      simp only [Floor.after, change]
      cases f.tasks[index]? with
      | none => rfl
      | some t => exact t.drop_store f.market

/-- A turn leaves the store alone or makes one write. -/
theorem Consistent.after_store (h : f.Consistent) (turn : Turn)
    : (f.after turn).market.store = f.market.store
      ∨ f.market.store.Yields (f.after turn).market.store := by
  rcases h.after_commits turn with same | ⟨c, commits⟩
  · exact .inl same
  · exact .inr commits.yields.store

/-- What every write of a command keeps is kept by every schedule, by induction on it. -/
theorem Consistent.invariant {P : Store → Prop}
    (kept : ∀ s s' : Store, s.Sound → s.Yields s' → P s → P s') (h : f.Consistent)
    (holds : P f.market.store) (schedule : List Turn)
    : P (f.run schedule).market.store := by
  induction schedule generalizing f with
  | nil => exact holds
  | cons turn rest ih =>
      apply ih (h.after turn)
      rcases h.after_store turn with same | yields
      · rw [same]
        exact holds
      · exact kept _ _ h.sound yields holds

end Floor

end DebtMarket
