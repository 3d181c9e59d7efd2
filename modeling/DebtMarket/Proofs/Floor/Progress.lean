import DebtMarket.Proofs.Floor.Consistency
import DebtMarket.Proofs.Operation.Tidy

/-! Progress on the floor. Any number of commands are at work at the same time, each from its
first step to its last, those that take two locks one after the other included. Whoever has
come to an end claims no lock any more, and nobody waits for a scope of a rank that they hold
already. So the holder that a task waits for waits for a scope of higher rank, if at all, and
some task can always go on.
-/

namespace DebtMarket

namespace Operation

variable {α : Type}

/-- What is left after an answer is not the whole operation, by induction on what is left. -/
theorem next_ne_call {c : Call} (next : c.Reply → Operation α) (reply : c.Reply)
    : next reply ≠ call c next := by
  have apart (p : Operation α) : p = next reply → p ≠ call c next := by
    induction p with
    | call c' next' ih =>
        intro left same
        cases same
        exact ih reply rfl left.symm
    | _ => exact fun _ => nofun
  exact apart _ rfl

/-- What is left after a lock was given up is not the whole operation, by induction on it. -/
theorem ne_unlock (p : Operation α) : p ≠ unlock p := by
  induction p with
  | unlock next ih =>
      intro same
      exact ih (Operation.unlock.inj same)
  | _ => nofun

end Operation

open Operation

namespace Task

/-- A task that carries out all of a command. -/
def whole (c : Command) : Task :=
  { start c with continued := true, stage := .running c.operation }

/-- The scope that a task has entered the slot of, and does not hold yet. -/
def awaited? (t : Task) : Option Scope :=
  match t.stage with
  | .entering guard _ | .waiting guard _ => some guard.scope
  | _ => none

/-- Whether a task has come to an end and its request does not go on either. -/
def isSettled (t : Task) : Bool :=
  t.isOver && t.sequel?.isNone

/-- A task whose rest is tidy; one that was dropped holds no lock. -/
structure Tidied (t : Task) : Prop where
  rest : ∀ p, t.rest? = some p → Tidy t.scopes p
  dropped : t.rest? = none → t.held = []

variable {t t' : Task} {m : Market} {p : Operation Outcome}

theorem tidied_of_rest (rest : t.rest? = some p) (tidy : Tidy t.scopes p) : t.Tidied where
  rest := fun q same => by
    cases rest.symm.trans same
    exact tidy
  dropped := fun none => by
    cases rest.symm.trans none

theorem tidied_start (c : Command) : (start c).Tidied :=
  tidied_of_rest rfl c.tidy_opening

theorem tidied_whole (c : Command) : (whole c).Tidied :=
  tidied_of_rest rfl c.tidy_operation

-----------------------------------------------------------------------------------------
-- Every step of a task is tidy
-----------------------------------------------------------------------------------------

/-- Every step of a task leaves a tidy rest, by cases on it. -/
theorem Tidied.step (h : t.Tidied) (m : Market) : (t.step m).1.Tidied := by
  have steps := t.steps_step m
  generalize (t.step m).1 = t', (t.step m).2 = m' at steps ⊢
  cases steps with
  | idle stage locks same =>
      refine ⟨fun p rest => ?_, fun none => h.dropped (same ▸ none)⟩
      rw [same] at rest
      exact h.rest p rest
  | call rest => exact tidied_of_rest rfl ((h.rest _ rest).of_call _)
  | lock rest => exact tidied_of_rest rfl (h.rest _ rest).of_lock.2
  | unlock locks rest =>
      obtain ⟨scope, others, taken, tidy⟩ := (h.rest _ rest).of_unlock
      obtain ⟨guard, held, same, -, others⟩ := List.map_eq_cons_iff.1 taken
      refine tidied_of_rest rfl ?_
      rw [scopes, same, List.tail_cons, others]
      exact tidy

theorem Tidied.drop (h : t.Tidied) (m : Market) : (t.drop m).1.Tidied := by
  rcases t.drop_cases m with same | gone
  · rw [same]
    exact h
  · rw [gone]
    exact ⟨nofun, fun _ => rfl⟩

/-- Tasks are tidy from their start, whatever comes next for them. -/
theorem kept_tidied : Kept Tidied where
  start := tidied_start
  continued := fun _ h => ⟨h.rest, h.dropped⟩
  step := fun _ m h => h.step m
  drop := fun _ m h => h.drop m

-----------------------------------------------------------------------------------------
-- What tidy tasks claim
-----------------------------------------------------------------------------------------

/-- A task that has come to an end claims nothing, by cases on how it ended. -/
theorem Tidied.claims_eq_nil (h : t.Tidied) (ended : t.isOver = true) : t.claims = [] := by
  have released : t.held = [] := by
    unfold isOver at ended
    split at ended
    · next result stage =>
        cases result with
        | ok outcome =>
            have tidy := h.rest (.done outcome) (by rw [rest?, stage])
            exact List.map_eq_nil_iff.1 tidy.of_done
        | error failure =>
            have tidy := h.rest (.fail failure) (by rw [rest?, stage])
            exact List.map_eq_nil_iff.1 tidy.of_fail
    · next stage => exact h.dropped (by rw [rest?, stage])
    · cases ended
  unfold isOver at ended
  unfold claims
  split at ended
  · next stage => simp [stage, released, Market.claimsOf]
  · next stage => simp [stage, released, Market.claimsOf]
  · cases ended

/-- A scope that a task waits for has a higher rank than all that it holds. -/
theorem Tidied.fits (h : t.Tidied) {scope : Scope} (awaits : t.awaited? = some scope)
    : scope.Fits t.scopes := by
  unfold awaited? at awaits
  split at awaits
  · next guard rest stage =>
      cases awaits
      have tidy := h.rest (.lock guard.scope rest) (by rw [rest?, stage])
      exact tidy.of_lock.1
  · next guard rest stage =>
      cases awaits
      have tidy := h.rest (.lock guard.scope rest) (by rw [rest?, stage])
      exact tidy.of_lock.1
  · cases awaits

-----------------------------------------------------------------------------------------
-- Steps that take a task further
-----------------------------------------------------------------------------------------

/-- A task that runs gets further with its next step, by cases on its operation. -/
theorem step_running (m : Market) (running : t.stage = .running p)
    : (t.step m).1.stage ≠ t.stage := by
  rw [step, running]
  cases p with
  | done a => simp [advance]
  | fail failure => simp [advance]
  | call c next =>
      intro same
      exact next_ne_call next _ (Stage.running.inj same)
  | lock scope next => simp [advance]
  | unlock next =>
      intro same
      simp only [advance] at same
      split at same <;> exact ne_unlock next (Stage.running.inj same)

/-- A task that waits gets further with its next step unless it does not hold the lock. -/
theorem step_waiting {guard : Guard} (waiting : t.stage = .waiting guard p)
    (holds : m.locks.holds guard = true)
    : (t.step m).1.stage ≠ t.stage := by
  rw [step, waiting]
  simp [holds]

/-- A task that has not come to an end gets further with its next step, unless it waits for
a lock that it does not hold.
-/
theorem step_or_waits (m : Market) (busy : t.isOver = false)
    : (t.step m).1.stage ≠ t.stage
      ∨ ∃ guard rest, t.stage = .waiting guard rest ∧ m.locks.holds guard = false := by
  cases stage : t.stage with
  | running rest => exact .inl (stage ▸ step_running m stage)
  | entering guard rest =>
      left
      rw [step, stage]
      simp
  | waiting guard rest =>
      cases holds : m.locks.holds guard with
      | true => exact .inl (stage ▸ step_waiting stage holds)
      | false => exact .inr ⟨guard, rest, rfl, holds⟩
  | finished result => simp [isOver, stage] at busy
  | dropped => simp [isOver, stage] at busy

end Task

namespace Floor

/-- A market with free locks, on which some commands have just been begun. -/
def gathering (m : Market) (threshold : Nat) (commands : List Command) : Floor :=
  ⟨{ m with locks := Locks.empty threshold }, commands.map Task.whole⟩

/-- A floor whose locks are kept and whose tasks are tidy. -/
structure Tidied (f : Floor) : Prop where
  locked : f.Locked
  tasks : ∀ t ∈ f.tasks, t.Tidied

variable {f : Floor} {t : Task}

theorem tidied_gathering (m : Market) (threshold : Nat) (commands : List Command)
    : (gathering m threshold commands).Tidied := by
  have unclaimed : Task.claimsOf (commands.map Task.whole) = [] := by
    refine List.flatMap_eq_nil_iff.2 fun t member => ?_
    obtain ⟨c, -, rfl⟩ := List.mem_map.1 member
    rfl
  refine ⟨⟨?_, fun t member guard held => ?_⟩, fun t member => ?_⟩
  · rw [gathering, unclaimed]
    exact Locks.accounts_empty threshold
  · obtain ⟨c, -, rfl⟩ := List.mem_map.1 member
    cases held
  · obtain ⟨c, -, rfl⟩ := List.mem_map.1 member
    exact Task.tidied_whole c

/-- Every schedule keeps a floor tidy, as every task stays tidy. -/
theorem Tidied.run (h : f.Tidied) (schedule : List Turn) : (f.run schedule).Tidied where
  locked := h.locked.run schedule
  tasks := forall_run Task.kept_tidied h.tasks schedule

/-- A task that waits in vain waits for one that holds the scope and waits for another one,
or some task gets further: by induction on how many ranks are above that of the scope.
-/
theorem Tidied.moves_of_waiting (h : f.Tidied) {guard : Guard} {rest : Operation Outcome}
    (member : t ∈ f.tasks) (waiting : t.stage = .waiting guard rest) (above : Nat)
    (ranks : 2 ≤ guard.scope.rank + above)
    : ∃ t' ∈ f.tasks, t'.isOver = false ∧ (t'.step f.market).1.stage ≠ t'.stage := by
  induction above generalizing t guard rest with
  | zero =>
      cases scope : guard.scope <;> simp [scope, Scope.rank] at ranks
  | succ above ih =>
      have claimed : ⟨guard, true⟩ ∈ t.claims := by
        rw [Task.claims, waiting]
        exact List.mem_cons_self
      obtain ⟨holder, owned, same, holds⟩ := h.locked.accounts.exists_holder
        (List.mem_flatMap.2 ⟨t, member, claimed⟩) rfl
      obtain ⟨t', member', mine⟩ := List.mem_flatMap.1 owned
      have busy : t'.isOver = false := by
        by_contra ended
        rw [(h.tasks t' member').claims_eq_nil (by simpa using ended)] at mine
        cases mine
      rcases Task.step_or_waits f.market busy with further | ⟨wanted, left, stage, vain⟩
      · exact ⟨t', member', busy, further⟩
      · -- the holder waits for a scope of higher rank than the one that it holds
        rw [Task.claims, stage] at mine
        rcases List.mem_cons.1 mine with rfl | held
        · rw [holds] at vain
          cases vain
        · obtain ⟨taken, kept, rfl⟩ := List.mem_map.1 held
          have awaits : t'.awaited? = some wanted.scope := by rw [Task.awaited?, stage]
          have higher := (h.tasks t' member').fits awaits taken.scope
            (List.mem_map.2 ⟨taken, kept, rfl⟩)
          have same : taken.scope = guard.scope := same
          rw [same] at higher
          exact ih member' stage (by omega)

/-- Once all tasks have come to an end nobody uses a lock any more. -/
theorem Tidied.free (h : f.Tidied) (rest : f.atRest = true) : f.market.locks.Free := by
  have unclaimed : Task.claimsOf f.tasks = [] := by
    refine List.flatMap_eq_nil_iff.2 fun t member => ?_
    exact (h.tasks t member).claims_eq_nil (List.all_eq_true.1 rest t member)
  have accounts := h.locked.accounts
  rw [unclaimed] at accounts
  exact accounts.free

/-- As long as some task has not come to an end, some task gets further with its next step.
-/
theorem Tidied.moves (h : f.Tidied) (member : t ∈ f.tasks) (busy : t.isOver = false)
    : ∃ t' ∈ f.tasks, t'.isOver = false ∧ (t'.step f.market).1.stage ≠ t'.stage := by
  rcases Task.step_or_waits f.market busy with further | ⟨guard, rest, waiting, -⟩
  · exact ⟨t, member, busy, further⟩
  · exact h.moves_of_waiting member waiting 2 (by omega)

/-- Whatever commands are at work at the same time: whoever has come to an end claims no lock,
and all locks are free once all have; nobody waits for a scope that they hold, nor for an
instrument while they hold a listing; and as long as one is not settled, one that is not
settled gets further with its next step or goes on with its sequel.
-/
theorem never_stuck (m : Market) (threshold : Nat) (commands : List Command)
    (schedule : List Turn)
    : let f := (gathering m threshold commands).run schedule
      (∀ t ∈ f.tasks, t.isOver = true → t.claims = [])
      ∧ (f.atRest = true → f.market.locks.Free)
      ∧ (∀ t ∈ f.tasks, ∀ scope, t.awaited? = some scope
        → scope ∉ t.scopes
          ∧ ∀ listing instrument, .listing listing ∈ t.scopes → scope ≠ .instrument instrument)
      ∧ ((∃ t ∈ f.tasks, t.isSettled = false)
        → ∃ t ∈ f.tasks, t.isSettled = false
            ∧ ((t.step f.market).1.stage ≠ t.stage ∨ t.sequel? ≠ none)) := by
  intro f
  have tidied : f.Tidied := (tidied_gathering m threshold commands).run schedule
  refine ⟨?_, tidied.free, ?_, ?_⟩
  · intro t member ended
    exact (tidied.tasks t member).claims_eq_nil ended
  · intro t member scope awaits
    have fits := (tidied.tasks t member).fits awaits
    refine ⟨fits.not_mem, ?_⟩
    rintro listing instrument held rfl
    exact absurd (fits _ held) (by simp [Scope.rank])
  · rintro ⟨t, member, unsettled⟩
    cases ended : t.isOver with
    | true =>
        refine ⟨t, member, unsettled, .inr fun none => ?_⟩
        simp [Task.isSettled, ended, none] at unsettled
    | false =>
        obtain ⟨t', member', busy, further⟩ := tidied.moves member ended
        exact ⟨t', member', by simp [Task.isSettled, busy], .inl further⟩

end Floor

end DebtMarket
