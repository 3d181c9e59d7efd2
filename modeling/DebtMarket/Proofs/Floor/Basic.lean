import DebtMarket.Proofs.Market.Run

/-! The floor of the market, where tasks work at the same time. A task carries out a command
one step after another: it asks the market for one thing, enters the slot of a lock, joins
its line, obtains the lock when it has come first, or gives a lock up. Between two steps of
a task any other task may take steps, new requests may come in, tasks may be dropped, and
the clock may be set to any time.
-/

namespace DebtMarket

/-- How far a task got. -/
inductive Stage where
  | running (rest : Operation Outcome)
  /-- The slot of a lock was entered. -/
  | entering (guard : Guard) (rest : Operation Outcome)
  /-- The line of a lock was joined. -/
  | waiting (guard : Guard) (rest : Operation Outcome)
  | finished (result : Except Failure Outcome)
  | dropped

/-- One command at work, on behalf of a request. -/
structure Task where
  request : Command
  /-- Whether the request went on with its sequel. -/
  continued : Bool
  /-- The locks that it holds, last taken first. -/
  held : List Guard
  /-- What it has read from the clock and drawn. -/
  drawn : Drawn
  stage : Stage

/-- The market and all tasks that were ever begun on it, oldest first. -/
structure Floor where
  market : Market
  tasks : List Task

/-- What happens next on a floor. -/
inductive Turn where
  /-- A request comes in. -/
  | request (c : Command)
  /-- A request goes on with its sequel, once its opening came to an outcome. -/
  | proceed (index : Nat)
  /-- A task takes its next step. -/
  | step (index : Nat)
  /-- A task is dropped and gives up its locks. -/
  | drop (index : Nat)
  | setClock (now : Instant)

/-- What was read and drawn after the reply to a call. -/
def Drawn.after (d : Drawn) : (c : Call) → c.Reply → Drawn
  | .now, time => d.reading time
  | .draw _, id => d.drawing id
  | .query _, _ => d
  | .write _, _ => d
  | .publish .., _ => d

namespace Task

/-- A task that has just been begun. -/
def start (request : Command) : Task :=
  {
    request,
    continued := false,
    held := [],
    drawn := .nothing,
    stage := .running request.opening.operation
  }

/-- The command that a task carries out. -/
def command (t : Task) : Command :=
  t.request.opening

/-- The scopes that a task keeps locked. -/
def scopes (t : Task) : List Scope :=
  t.held.map Guard.scope

/-- The claims that a task has on the locks. -/
def claims (t : Task) : List Claim :=
  match t.stage with
  | .entering guard _ => ⟨guard, false⟩ :: Market.claimsOf t.held
  | .waiting guard _ => ⟨guard, true⟩ :: Market.claimsOf t.held
  | _ => Market.claimsOf t.held

/-- The next step of a task whose operation goes on. -/
def advance (t : Task) (m : Market) : Operation Outcome → Task × Market
  | .done a => ({ t with stage := .finished (.ok a) }, m)
  | .fail failure => ({ t with stage := .finished (.error failure) }, m)
  | .call c next =>
      let (reply, m) := m.answer c
      ({ t with drawn := t.drawn.after c reply, stage := .running (next reply) }, m)
  | .lock scope next =>
      let (guard, locks) := m.locks.enter scope
      ({ t with stage := .entering guard next }, { m with locks })
  | .unlock next =>
      match t.held with
      | guard :: held => ({ t with held, stage := .running next }, m.leave guard)
      | [] => ({ t with stage := .running next }, m)

/-- The next step of a task; one that waits for a lock stays where it is until it has come
first in line.
-/
def step (t : Task) (m : Market) : Task × Market :=
  match t.stage with
  | .running rest => t.advance m rest
  | .entering guard rest =>
      ({ t with stage := .waiting guard rest }, { m with locks := m.locks.join guard })
  | .waiting guard rest =>
      if m.locks.holds guard then
        ({ t with held := guard :: t.held, stage := .running rest }, m)
      else (t, m)
  | .finished _ => (t, m)
  | .dropped => (t, m)

/-- A task that is dropped gives up whatever it holds or waits for; one that has finished
cannot be dropped any more.
-/
def drop (t : Task) (m : Market) : Task × Market :=
  match t.stage with
  | .finished _ => (t, m)
  | _ =>
      ({ t with held := [], stage := .dropped },
        (t.claims.map Claim.guard).foldl Market.leave m)

/-- The command that the request of a finished task goes on with, if it has not done so. -/
def sequel? (t : Task) : Option Command :=
  match t.stage with
  | .finished (.ok outcome) => if t.continued then none else t.request.sequel? outcome
  | _ => none

/-- A request goes on only after its opening came to an outcome. -/
theorem sequel?_eq_some {t : Task} {next : Command} (h : t.sequel? = some next)
    : ∃ outcome, t.stage = .finished (.ok outcome)
        ∧ t.request.sequel? outcome = some next := by
  unfold sequel? at h
  split at h
  · next outcome stage =>
      split at h
      · cases h
      · exact ⟨outcome, stage, h⟩
  · cases h

/-- Whether a task has finished, be it with a result or a failure. -/
def isFinished (t : Task) : Bool :=
  match t.stage with
  | .finished _ => true
  | _ => false

/-- Whether a task has come to an end. -/
def isOver (t : Task) : Bool :=
  match t.stage with
  | .finished _ | .dropped => true
  | _ => false

/-- What a task still has to do, unless it was dropped. -/
def rest? (t : Task) : Option (Operation Outcome) :=
  match t.stage with
  | .running rest => some rest
  | .entering guard rest => some (.lock guard.scope rest)
  | .waiting guard rest => some (.lock guard.scope rest)
  | .finished (.ok outcome) => some (.done outcome)
  | .finished (.error failure) => some (.fail failure)
  | .dropped => none

/-- The result that a task has already come to, if what it still has to do cannot change it.
-/
def verdict? (t : Task) : Option (Except Failure Outcome) :=
  t.rest?.bind Operation.verdict

theorem rest?_running {t : Task} {rest : Operation Outcome} (running : t.stage = .running rest)
    : t.rest? = some rest := by
  rw [rest?, running]

/-- What a step makes of a task and of the market. The task has as much to do as before, and
at most the locks have changed, or the task gets further in what it has to do: by the answer
to a call, by a lock that it obtains, or by one that it gives up.
-/
inductive Steps (t : Task) (m : Market) : Task → Market → Prop
  | idle (stage : Stage) (locks : Locks) (same : ({ t with stage } : Task).rest? = t.rest?)
    : Steps t m { t with stage } { m with locks }
  | call {c next} (rest : t.rest? = some (.call c next))
    : Steps t m
        {
          t with
          drawn := t.drawn.after c (m.answer c).1,
          stage := .running (next (m.answer c).1)
        }
        (m.answer c).2
  | lock {guard next} (rest : t.rest? = some (.lock guard.scope next))
    : Steps t m { t with held := guard :: t.held, stage := .running next } m
  | unlock {next} (locks : Locks) (rest : t.rest? = some (.unlock next))
    : Steps t m { t with held := t.held.tail, stage := .running next } { m with locks }

/-- Every step is one of these, by cases on the stage and on the operation. -/
theorem steps_step (t : Task) (m : Market) : t.Steps m (t.step m).1 (t.step m).2 := by
  cases stage : t.stage with
  | running rest =>
      have todo := rest?_running stage
      simp only [step, stage]
      cases rest with
      | done a => exact .idle _ m.locks (by rw [todo, rest?])
      | fail failure => exact .idle _ m.locks (by rw [todo, rest?])
      | call c next => exact .call todo
      | lock scope next =>
          have same : some (Operation.lock (m.locks.enter scope).1.scope next) = t.rest? := by
            rw [Locks.enter_scope, todo]
          exact .idle _ (m.locks.enter scope).2 same
      | unlock next =>
          cases held : t.held with
          | nil =>
              have steps := Steps.unlock (m := m) m.locks todo
              rw [held] at steps
              simp only [advance, held]
              exact steps
          | cons guard others =>
              have steps := Steps.unlock (m := m) (m.locks.leave guard) todo
              rw [held] at steps
              simp only [advance, held]
              exact steps
  | entering guard rest =>
      simp only [step, stage]
      exact .idle _ (m.locks.join guard) (by simp only [rest?, stage])
  | waiting guard rest =>
      simp only [step, stage]
      split
      · exact .lock (by rw [rest?, stage])
      · exact .idle t.stage m.locks rfl
  | finished result =>
      simp only [step, stage]
      exact .idle t.stage m.locks rfl
  | dropped =>
      simp only [step, stage]
      exact .idle t.stage m.locks rfl

/-- A condition that every task meets from its start and keeps whatever comes next for it. -/
structure Kept (P : Task → Prop) : Prop where
  start : ∀ c, P (start c)
  continued : ∀ t, P t → P { t with continued := true }
  step : ∀ t m, P t → P (t.step m).1
  drop : ∀ t m, P t → P (t.drop m).1

end Task

namespace Floor

/-- A market without records, on which nothing was begun yet. -/
def start (clock : Instant) (threshold : Nat) (outlet : Outlet)
    (source : IdKind → Nat → Uuid)
    : Floor :=
  ⟨Market.start clock threshold outlet source, []⟩

/-- The floor after a task was changed along with the market. -/
def change (f : Floor) (index : Nat) (g : Task → Market → Task × Market) : Floor :=
  match f.tasks[index]? with
  | some t => let (t, m) := g t f.market; ⟨m, f.tasks.set index t⟩
  | none => f

/-- The floor after a turn. -/
def after (f : Floor) : Turn → Floor
  | .request c => { f with tasks := f.tasks ++ [Task.start c] }
  | .proceed index =>
      match f.tasks[index]? with
      | some t =>
          match t.sequel? with
          | some next =>
              { f with tasks := f.tasks.set index { t with continued := true } ++ [.start next] }
          | none => f
      | none => f
  | .step index => f.change index Task.step
  | .drop index => f.change index Task.drop
  | .setClock now => { f with market := f.market.setClock now }

/-- The floor after some turns. -/
def run (f : Floor) (schedule : List Turn) : Floor :=
  schedule.foldl after f

/-- Whether all tasks have come to an end. -/
def atRest (f : Floor) : Bool :=
  f.tasks.all Task.isOver

@[simp]
theorem run_nil (f : Floor) : f.run [] = f :=
  rfl

@[simp]
theorem run_cons (f : Floor) (turn : Turn) (rest : List Turn)
    : f.run (turn :: rest) = (f.after turn).run rest :=
  rfl

/-- A floor that some schedule leads to from a market without records. -/
def Reachable (f : Floor) : Prop :=
  ∃ clock threshold outlet source schedule,
    f = (start clock threshold outlet source).run schedule

theorem run_append (f : Floor) (earlier later : List Turn)
    : f.run (earlier ++ later) = (f.run earlier).run later :=
  List.foldl_append

/-- What every task keeps is met by all tasks after a turn, by cases on the turn. -/
theorem forall_after {P : Task → Prop} (kept : Task.Kept P) {f : Floor}
    (h : ∀ t ∈ f.tasks, P t) (turn : Turn)
    : ∀ t ∈ (f.after turn).tasks, P t := by
  have begun {tasks : List Task} (before : ∀ t ∈ tasks, P t) (c : Command)
      : ∀ t ∈ tasks ++ [.start c], P t := by
    intro t member
    rcases List.mem_append.1 member with old | new
    · exact before t old
    · rw [List.mem_singleton.1 new]
      exact kept.start c
  have changed (index : Nat) {t' : Task} (next : P t') : ∀ t ∈ f.tasks.set index t', P t := by
    intro t member
    rcases List.mem_or_eq_of_mem_set member with old | rfl
    · exact h t old
    · exact next
  cases turn with
  | request c => exact begun h c
  | setClock now => exact h
  | step index =>
      simp only [after, change]
      cases found : f.tasks[index]? with
      | none => exact h
      | some t =>
          have before := h t (List.mem_of_getElem? found)
          exact changed index (kept.step t f.market before)
  | drop index =>
      simp only [after, change]
      cases found : f.tasks[index]? with
      | none => exact h
      | some t =>
          have before := h t (List.mem_of_getElem? found)
          exact changed index (kept.drop t f.market before)
  | proceed index =>
      simp only [after]
      cases found : f.tasks[index]? with
      | none => exact h
      | some t =>
          have before := h t (List.mem_of_getElem? found)
          cases sequel : t.sequel? with
          | none => simpa only [sequel] using h
          | some next =>
              simp only [sequel]
              exact begun (changed index (kept.continued t before)) next

/-- What every task keeps is met by all tasks over every schedule, by induction on it. -/
theorem forall_run {P : Task → Prop} (kept : Task.Kept P) {f : Floor}
    (h : ∀ t ∈ f.tasks, P t) (schedule : List Turn)
    : ∀ t ∈ (f.run schedule).tasks, P t := by
  induction schedule generalizing f with
  | nil => exact h
  | cons turn rest ih => exact ih (forall_after kept h turn)

namespace Sample

/-- A floor without records in the first second of the year 2024. -/
def opened : Floor :=
  start Market.Sample.newYear 1 .unbounded fun _ n => ⟨BitVec.ofNat 128 n⟩

end Sample

end Floor

end DebtMarket
