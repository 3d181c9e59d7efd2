import DebtMarket.Proofs.Floor.Serializability
import DebtMarket.Proofs.Floor.Writes

/-! What a turn can do, said once for every turn: it begins a task, lets a request go on with
its sequel, lets one task move, drops one, sets the clock, or does nothing. So no record ever
vanishes, and whatever the effect of a command brings about and no later write takes away
holds of all tasks that are decided.
-/

namespace DebtMarket

namespace Task

variable {t : Task} {m : Market}

/-- A step does not concern the sequel of a request. -/
theorem step_continued (t : Task) (m : Market) : (t.step m).1.continued = t.continued := by
  have steps := t.steps_step m
  generalize (t.step m).1 = t', (t.step m).2 = m' at steps ⊢
  cases steps <;> rfl

/-- A step does not drop a task, by cases on it. -/
theorem step_rest? (alive : t.rest? ≠ none) : (t.step m).1.rest? ≠ none := by
  have steps := t.steps_step m
  generalize (t.step m).1 = t', (t.step m).2 = m' at steps ⊢
  cases steps with
  | idle stage locks same =>
      rw [same]
      exact alive
  | _ => exact Option.some_ne_none _

/-- A task that was dropped is not decided any more, unless it had finished before. -/
theorem verdict?_drop {result : Except Failure Outcome}
    (decided : (t.drop m).1.verdict? = some result)
    : t.drop m = (t, m) := by
  rcases t.drop_cases m with same | gone
  · exact same
  · rw [gone] at decided
    cases decided

end Task

namespace Floor

/-- What a turn makes of a floor. -/
inductive Next (f : Floor) : Turn → Floor → Prop
  | nothing (turn : Turn) : Next f turn f
  | begun (c : Command)
    : Next f (.request c) { f with tasks := f.tasks ++ [Task.start c] }
  | continued {index t next} (found : f.tasks[index]? = some t)
    (sequel : t.sequel? = some next)
    : Next f (.proceed index)
        { f with
          tasks := f.tasks.set index { t with continued := true } ++ [Task.start next] }
  | moved {index t} (found : f.tasks[index]? = some t)
    (moves : t.Moves f.market.store (t.step f.market).1 (t.step f.market).2.store)
    : Next f (.step index) ⟨(t.step f.market).2, f.tasks.set index (t.step f.market).1⟩
  | dropped {index t} (found : f.tasks[index]? = some t)
    : Next f (.drop index) ⟨(t.drop f.market).2, f.tasks.set index (t.drop f.market).1⟩
  | clock (now : Instant) : Next f (.setClock now) { f with market := f.market.setClock now }

variable {f : Floor}

/-- Every turn does one of these things, by cases on the turn. -/
theorem Consistent.next (h : f.Consistent) (turn : Turn) : f.Next turn (f.after turn) := by
  cases turn with
  | request c => exact .begun c
  | setClock now => exact .clock now
  | proceed index =>
      simp only [Floor.after]
      cases found : f.tasks[index]? with
      | none => exact .nothing _
      | some t =>
          cases sequel : t.sequel? with
          | none => simpa only [sequel] using .nothing _
          | some next => simpa only [sequel] using .continued found sequel
  | step index =>
      simp only [Floor.after, change]
      cases found : f.tasks[index]? with
      | none => exact .nothing _
      | some t =>
          exact .moved found ((h.tasks t (List.mem_of_getElem? found)).step h.sound)
  | drop index =>
      simp only [Floor.after, change]
      cases found : f.tasks[index]? with
      | none => exact .nothing _
      | some t => exact .dropped found

/-- No record ever vanishes, and what is fixed about it stays, over a turn. -/
theorem Consistent.after_keeps (h : f.Consistent) (turn : Turn)
    : f.market.store.Keeps [] (f.after turn).market.store := by
  have next := h.next turn
  generalize f.after turn = f' at next ⊢
  cases next with
  | moved found moves => exact moves.apart [] fun _ member => absurd member List.not_mem_nil
  | @dropped index t found =>
      rw [Task.drop_store]
      exact .refl h.sound
  | _ => exact .refl h.sound

/-- No record ever vanishes, and what is fixed about it stays, by induction on the schedule.
-/
theorem Consistent.run_keeps (h : f.Consistent) (schedule : List Turn)
    : f.market.store.Keeps [] (f.run schedule).market.store := by
  induction schedule generalizing f with
  | nil => exact .refl h.sound
  | cons turn rest ih => exact (h.after_keeps turn).trans (ih (h.after turn))

end Floor

-----------------------------------------------------------------------------------------
-- What holds of decided tasks
-----------------------------------------------------------------------------------------

/-- The effects of commands bring a condition on the command, the result and the store about.
-/
def Command.Establishes (P : Command → Except Failure Outcome → Store → Prop) : Prop :=
  ∀ (c : Command) g s result s' notices,
    c.opening.operation.effect g s = ⟨result, s', notices⟩ → P c.opening result s'

/-- The writes of commands keep a condition on a command, a result and the store. -/
def Store.Retains (P : Command → Except Failure Outcome → Store → Prop) : Prop :=
  ∀ c result s s', s.Sound → s.Yields s' → P c result s → P c result s'

variable {P : Command → Except Failure Outcome → Store → Prop}

namespace Floor

variable {f : Floor}

/-- A task that is decided after a turn was decided before it, or the whole command of the
task at once would have made of the store what the turn has made of it: by cases on the turn.
-/
theorem Consistent.decides (h : f.Consistent) (turn : Turn) {t : Task}
    (member : t ∈ (f.after turn).tasks) {result : Except Failure Outcome}
    (decided : t.verdict? = some result)
    : (∃ earlier ∈ f.tasks, earlier.command = t.command ∧ earlier.verdict? = some result)
      ∨ ∃ notices, t.command.operation.effect (t.drawn.given f.market.clock) f.market.store
          = ⟨result, (f.after turn).market.store, notices⟩ := by
  have started (c : Command) (decided : (Task.start c).verdict? = some result)
      : ∃ notices, (Task.start c).command.operation.effect
          ((Task.start c).drawn.given f.market.clock) f.market.store
        = ⟨result, f.market.store, notices⟩ := by
    obtain ⟨notices, effect⟩ := Operation.effect_of_verdict decided
    exact ⟨notices, effect _ _⟩
  have next := h.next turn
  generalize f.after turn = f' at next member ⊢
  cases next with
  | nothing turn => exact .inl ⟨t, member, rfl, decided⟩
  | clock now => exact .inl ⟨t, member, rfl, decided⟩
  | begun c =>
      rcases List.mem_append.1 member with old | new
      · exact .inl ⟨t, old, rfl, decided⟩
      · obtain rfl := List.mem_singleton.1 new
        exact .inr (started c decided)
  | continued found sequel =>
      rcases List.mem_append.1 member with old | new
      · rcases List.mem_or_eq_of_mem_set old with old | rfl
        · exact .inl ⟨t, old, rfl, decided⟩
        · exact .inl ⟨_, List.mem_of_getElem? found, rfl, decided⟩
      · obtain rfl := List.mem_singleton.1 new
        exact .inr (started _ decided)
  | @moved index before found moves =>
      rcases List.mem_or_eq_of_mem_set member with old | rfl
      · exact .inl ⟨t, old, rfl, decided⟩
      · have command : (before.step f.market).1.command = before.command := by
          rw [Task.command, moves.request, Task.command]
        cases earlier : before.verdict? with
        | some other =>
            obtain ⟨same, -⟩ := moves.decided other earlier
            cases Option.some.inj (same.symm.trans decided)
            exact .inl ⟨before, List.mem_of_getElem? found, command.symm, earlier⟩
        | none =>
            rw [command]
            exact .inr (moves.effect result earlier decided _ (Drawn.agrees_given _ _))
  | @dropped index before found =>
      rcases List.mem_or_eq_of_mem_set member with old | rfl
      · exact .inl ⟨t, old, rfl, decided⟩
      · have same := Task.verdict?_drop decided
        rw [same] at decided ⊢
        exact .inl ⟨before, List.mem_of_getElem? found, rfl, decided⟩

/-- All decided tasks meet a condition on their command, their result and the store. -/
def Decided (P : Command → Except Failure Outcome → Store → Prop) (f : Floor) : Prop :=
  ∀ t ∈ f.tasks, ∀ result, t.verdict? = some result → P t.command result f.market.store

/-- A turn keeps what holds of all decided tasks: a task that was decided before it, and one
that is decided by it.
-/
theorem Consistent.decided_after (h : f.Consistent) (established : Command.Establishes P)
    (retained : Store.Retains P) (before : f.Decided P) (turn : Turn)
    : (f.after turn).Decided P := by
  intro t member result decided
  rcases h.decides turn member decided with ⟨earlier, old, same, decided⟩ | ⟨notices, effect⟩
  · have held := before earlier old result decided
    rw [same] at held
    rcases h.after_store turn with unchanged | yields
    · rw [unchanged]
      exact held
    · exact retained _ _ _ _ h.sound yields held
  · exact established t.request _ _ _ _ _ effect

/-- What effects bring about and no write takes away holds of all decided tasks over every
schedule, by induction on it.
-/
theorem Consistent.decided (h : f.Consistent) (established : Command.Establishes P)
    (retained : Store.Retains P) (before : f.Decided P) (schedule : List Turn)
    : (f.run schedule).Decided P := by
  induction schedule generalizing f with
  | nil => exact before
  | cons turn rest ih =>
      exact ih (h.after turn) (h.decided_after established retained before turn)

theorem decided_start (clock : Instant) (threshold : Nat) (outlet : Outlet)
    (source : IdKind → Nat → Uuid)
    : (start clock threshold outlet source).Decided P :=
  fun _ member => absurd member List.not_mem_nil

end Floor

end DebtMarket
