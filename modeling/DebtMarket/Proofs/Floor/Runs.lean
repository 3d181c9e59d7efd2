import DebtMarket.Proofs.Floor.Basic

/-! Runs as schedules. What the market does in one go with an operation, until it ends or has
to wait, a task of the floor does in a number of steps with nothing in between. So what the
market does with a request that it begins is one of the schedules of the floor.
-/

namespace DebtMarket

namespace Task

/-- A task after some steps with nothing in between, along with the market. -/
def steps (t : Task) (m : Market) : Nat → Task × Market
  | 0 => (t, m)
  | n + 1 => (t.step m).1.steps (t.step m).2 n

/-- A task has got as far as a run did. -/
def Reached (t : Task) : Progress Outcome → Prop
  | .finished result held => t.stage = .finished result ∧ t.held = held
  | .waiting task => t.stage = .waiting task.wanted task.rest ∧ t.held = task.held

variable {t : Task} {m : Market}

theorem steps_add (t : Task) (m : Market) (n k : Nat)
    : t.steps m (n + k) = (t.steps m n).1.steps (t.steps m n).2 k := by
  induction n generalizing t m with
  | zero => rw [Nat.zero_add, steps]
  | succ n ih =>
      rw [Nat.succ_add]
      exact ih _ _

/-- The steps of a task that carries out an operation come to what the run of the operation
comes to, by induction on the operation: a call and the return of a lock take one step, and
a lock takes two steps to be in line for and one to obtain.
-/
theorem steps_run (p : Operation Outcome) (running : t.stage = .running p)
    : ∃ n, (t.steps m n).1.Reached (Market.run p t.held m).1
        ∧ (t.steps m n).1.request = t.request
        ∧ (t.steps m n).2 = (Market.run p t.held m).2 := by
  induction p generalizing t m with
  | done a =>
      refine ⟨1, ?_⟩
      simp only [steps, step, running, advance, Market.run, Reached, and_self]
  | fail failure =>
      refine ⟨1, ?_⟩
      simp only [steps, step, running, advance, Market.run, Reached, and_self]
  | call c next ih =>
      obtain ⟨n, reached, request, market⟩ := ih (m.answer c).1
        (t := { t with
          drawn := t.drawn.after c (m.answer c).1, stage := .running (next (m.answer c).1) })
        (m := (m.answer c).2) rfl
      refine ⟨n + 1, ?_⟩
      simp only [steps, step, running, advance, Market.run]
      exact ⟨reached, request, market⟩
  | unlock next ih =>
      cases held : t.held with
      | nil =>
          obtain ⟨n, reached, request, market⟩ :=
            ih (t := { t with held := [], stage := .running next }) (m := m) rfl
          refine ⟨n + 1, ?_⟩
          simp only [steps, step, running, advance, held, Market.run]
          exact ⟨reached, request, market⟩
      | cons guard rest =>
          obtain ⟨n, reached, request, market⟩ :=
            ih (t := { t with held := rest, stage := .running next }) (m := m.leave guard) rfl
          refine ⟨n + 1, ?_⟩
          simp only [steps, step, running, advance, held, Market.run]
          exact ⟨reached, request, market⟩
  | lock scope next ih =>
      have joined : t.steps m 2
          = ({ t with stage := .waiting (m.claim scope).1 next }, (m.claim scope).2) := by
        simp only [steps, step, running, advance, Market.claim]
      simp only [Market.run]
      by_cases holds : (m.claim scope).2.locks.holds (m.claim scope).1 = true
      · obtain ⟨n, reached, request, market⟩ :=
          ih (t := { t with held := (m.claim scope).1 :: t.held, stage := .running next })
            (m := (m.claim scope).2) rfl
        refine ⟨2 + (1 + n), ?_⟩
        rw [steps_add, joined, steps_add, if_pos holds]
        simp only [steps, step, if_pos holds]
        exact ⟨reached, request, market⟩
      · refine ⟨2, ?_⟩
        rw [joined, if_neg holds]
        exact ⟨⟨rfl, rfl⟩, rfl, rfl⟩

end Task

namespace Floor

variable {f : Floor} {t : Task} {index : Nat}

/-- The steps of one task with nothing in between, by induction on their number. -/
theorem run_steps (found : f.tasks[index]? = some t) (n : Nat)
    : f.run (List.replicate n (.step index))
      = ⟨(t.steps f.market n).2, f.tasks.set index (t.steps f.market n).1⟩ := by
  have bound := (List.getElem?_eq_some_iff.1 found).1
  induction n generalizing f t with
  | zero =>
      obtain ⟨-, rfl⟩ := List.getElem?_eq_some_iff.1 found
      simp [Task.steps]
  | succ n ih =>
      have next : f.after (.step index)
          = ⟨(t.step f.market).2, f.tasks.set index (t.step f.market).1⟩ := by
        simp only [Floor.after, change, found]
      rw [List.replicate_succ, run_cons, next]
      rw [ih (f := ⟨(t.step f.market).2, f.tasks.set index (t.step f.market).1⟩)
        (t := (t.step f.market).1) (by simp [bound]) (by simpa using bound)]
      simp only [Task.steps, List.set_set]

/-- An operation begun on the market is a request that takes some steps at once. -/
theorem run_begin (f : Floor) (c : Command)
    : ∃ n t, f.run (.request c :: List.replicate n (.step f.tasks.length))
        = ⟨(f.market.begin c.opening.operation).2, f.tasks ++ [t]⟩
      ∧ t.request = c ∧ t.Reached (f.market.begin c.opening.operation).1 := by
  obtain ⟨n, reached, request, market⟩ :=
    Task.steps_run (t := Task.start c) (m := f.market) c.opening.operation rfl
  have found : (f.tasks ++ [Task.start c])[f.tasks.length]? = some (Task.start c) := by simp
  have steps := run_steps (f := { f with tasks := f.tasks ++ [Task.start c] }) found n
  refine ⟨n, ((Task.start c).steps f.market n).1, ?_, request, reached⟩
  rw [run_cons]
  apply steps.trans
  have market : ((Task.start c).steps f.market n).2
      = (f.market.begin c.opening.operation).2 := market
  rw [← market]
  simp

end Floor

end DebtMarket
