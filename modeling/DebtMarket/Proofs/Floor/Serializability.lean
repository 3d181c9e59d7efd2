import DebtMarket.Proofs.Floor.Serial
import DebtMarket.Proofs.Market.Failure

/-! Serializability. Whatever requests are at work at the same time on a market that was at
rest, and however their steps are mixed: once all have finished, the market might as well
have carried out their commands one after the other.
-/

namespace DebtMarket

namespace Command

/-- The opening of a request is a request of its own, which has no other opening. -/
theorem opening_opening (c : Command) : c.opening.opening = c.opening := by
  cases c <;> rfl

end Command

namespace Market

/-- The market with the time and the identifiers that the next command is given. -/
def giving (m : Market) (g : Given) : Market :=
  { m with clock := g.instant, source := fun kind _ => g.uuid kind }

/-- Commands carried out one after another, each with what it is given. -/
def serve (m : Market) : List (Command × Given) → List (Progress Outcome) × Market
  | [] => ([], m)
  | (c, g) :: rest =>
      let (progress, m) := (m.giving g).begin c.operation
      let (others, m) := m.serve rest
      (progress :: others, m)

/-- On a market where nobody claims a lock, commands that are carried out one after another
have their effects, by induction on them.
-/
theorem serve_eq {m : Market} (free : m.locks.Accounts []) {jobs : List (Command × Given)}
    (simple : ∀ job ∈ jobs, job.1.opening = job.1)
    : (m.serve jobs).1 = (m.store.serve jobs).1.map (fun result => .finished result [])
      ∧ (m.serve jobs).2.store = (m.store.serve jobs).2 := by
  induction jobs generalizing m with
  | nil => exact ⟨rfl, rfl⟩
  | cons job rest ih =>
      obtain ⟨c, g⟩ := job
      obtain ⟨opening, simple⟩ := List.forall_mem_cons.1 simple
      have opening : c.opening = c := opening
      have orderly := c.orderly_opening
      rw [opening] at orderly
      obtain ⟨result, m', ended, free'⟩ : ∃ result m',
          (m.giving g).begin c.operation = (.finished result [], m')
            ∧ m'.locks.Accounts [] :=
        run_ends orderly rfl free
      have undergone : (m.giving g).Undergoes (c.operation.effect g m.store) result m' :=
        run_orderly orderly ended (fun _ => rfl) (fun _ _ _ => rfl)
      obtain ⟨results, store⟩ := ih free' simple
      simp only [serve, ended, Store.serve, undergone.store, undergone.result]
      exact ⟨by rw [results, List.map_cons], store⟩

end Market

namespace Floor

variable {f : Floor}

/-- Nobody claims a lock on a floor at rest. -/
theorem Consistent.free (h : f.Consistent) (rest : f.atRest = true)
    : f.market.locks.Accounts [] := by
  have nothing : Task.claimsOf f.tasks = [] := by
    apply List.flatMap_eq_nil_iff.2
    intro t member
    have past := List.all_eq_true.1 rest t member
    have same := h.tasks t member
    have none (held : t.held = []) (stage : t.claims = Market.claimsOf t.held)
        : t.claims = [] := by
      rw [stage, held]
      rfl
    unfold Task.isOver at past
    split at past
    · next result stage =>
        have scopes : t.scopes = [] := by
          cases result with
          | ok outcome => exact (same.orderly _ (by rw [Task.rest?, stage])).of_done
          | error failure => exact (same.orderly _ (by rw [Task.rest?, stage])).of_fail
        exact none (List.map_eq_nil_iff.1 scopes) (by rw [Task.claims, stage])
    · next stage =>
        exact none (same.dropped (by rw [Task.rest?, stage])) (by rw [Task.claims, stage])
    · cases past
  have accounts := h.locked.accounts
  rwa [nothing] at accounts

/-- An order in which the commands of the tasks that were begun after a floor was at rest
might have been carried out one after another.
-/
structure SerialOrder (before : Floor) (later : List Turn) (order : List Served) : Prop where
  /-- Each of these tasks stands in the order once. -/
  tasks
    : (order.map Served.index).Perm
        (List.range' before.tasks.length
          ((before.run later).tasks.length - before.tasks.length))
  results
    : ∀ e ∈ order, ∃ t, (before.run later).tasks[e.index]? = some t
        ∧ t.command = e.command ∧ t.stage = .finished e.result
  /-- A task that had finished when another one was not begun yet comes before it. -/
  timely
    : ∀ moment rest, later = moment ++ rest → ∀ e ∈ order, ∀ e' ∈ order,
        (∃ t, (before.run moment).tasks[e.index]? = some t ∧ t.isFinished = true)
        → (before.run moment).tasks.length ≤ e'.index
        → [e, e'].Sublist order
  /-- The commands can be given what their tasks have read and drawn. -/
  given : ∃ given, Served.Agrees order given (before.run later)
  /-- In this order each command has the result of its task, and all together leave the same
  store, if each is given the time that its task has read and the identifiers that it drew.
  -/
  serial
    : ∀ given, Served.Agrees order given (before.run later)
        → (before.market.serve (Served.jobs order given)).1
            = order.map (fun e => .finished e.result [])
          ∧ (before.market.serve (Served.jobs order given)).2.store
              = (before.run later).market.store

/-- A task that has finished with a result was decided to it. -/
theorem verdict?_of_finished {t : Task} {result : Except Failure Outcome}
    (stage : t.stage = .finished result)
    : t.verdict? = some result := by
  rw [Task.verdict?, Task.rest?, stage]
  cases result <;> rfl

theorem stage_of_isFinished {t : Task} (finished : t.isFinished = true)
    : ∃ result, t.stage = .finished result := by
  unfold Task.isFinished at finished
  split at finished
  · next result stage => exact ⟨result, stage⟩
  · cases finished

section Explained

variable {first : Nat} {s₀ : Store} {order : List Served}

/-- A new task that has finished is among those that took effect. -/
theorem Explains.listed (h : Explains first s₀ order f) {index : Nat} {t : Task}
    (found : f.tasks[index]? = some t) (late : first ≤ index)
    (finished : t.isFinished = true)
    : index ∈ order.map Served.index := by
  obtain ⟨result, stage⟩ := stage_of_isFinished finished
  apply h.decided index t found late
  rw [verdict?_of_finished stage]
  simp

/-- If all new tasks have finished, each of them took effect once. -/
theorem Explains.perm (h : Explains first s₀ order f)
    (ended : ∀ index t, f.tasks[index]? = some t → first ≤ index → t.isFinished = true)
    : (order.map Served.index).Perm (List.range' first (f.tasks.length - first)) := by
  apply (List.perm_ext_iff_of_nodup h.unique List.nodup_range').2
  intro index
  rw [List.mem_range'_1]
  constructor
  · intro member
    obtain ⟨e, listed, rfl⟩ := List.mem_map.1 member
    obtain ⟨late, t, found, -⟩ := h.served e listed
    have bound := (List.getElem?_eq_some_iff.1 found).1
    omega
  · rintro ⟨late, bound⟩
    have present : index < f.tasks.length := by omega
    have found := List.getElem?_eq_getElem present
    exact h.listed found late (ended index _ found late)

/-- If all new tasks have finished, each came to the result with which it took effect. -/
theorem Explains.results (h : Explains first s₀ order f)
    (ended : ∀ index t, f.tasks[index]? = some t → first ≤ index → t.isFinished = true)
    {e : Served} (member : e ∈ order)
    : ∃ t, f.tasks[e.index]? = some t ∧ t.command = e.command
        ∧ t.stage = .finished e.result := by
  obtain ⟨late, t, found, command, verdict⟩ := h.served e member
  obtain ⟨result, stage⟩ := stage_of_isFinished (ended e.index t found late)
  have decided := verdict?_of_finished stage
  refine ⟨t, found, command, ?_⟩
  rcases verdict with none | verdict
  · rw [Task.verdict?, none] at decided
    cases decided
  · rw [stage, Option.some.inj (decided.symm.trans verdict)]

/-- A task that took effect by some moment comes before one that was begun later. -/
theorem Explains.sublist {now after : List Served} {last : Floor}
    (h : Explains first s₀ now f) (final : Explains first s₀ (now ++ after) last)
    {e e' : Served} (member : e ∈ now ++ after) (member' : e' ∈ now ++ after)
    (early : e.index ∈ now.map Served.index) (late : f.tasks.length ≤ e'.index)
    : [e, e'].Sublist (now ++ after) := by
  have inNow : e ∈ now := by
    obtain ⟨other, listed, index⟩ := List.mem_map.1 early
    have same : other = e :=
      List.inj_on_of_nodup_map final.unique (List.mem_append_left _ listed) member index
    exact same ▸ listed
  have inAfter : e' ∈ after := by
    rcases List.mem_append.1 member' with listed | inAfter
    · obtain ⟨-, t, found, -⟩ := h.served e' listed
      have bound := (List.getElem?_eq_some_iff.1 found).1
      omega
    · exact inAfter
  exact (List.singleton_sublist.2 inNow).append (List.singleton_sublist.2 inAfter)

/-- Every task that took effect carried out a command that is its own opening. -/
theorem Explains.simple (h : Explains first s₀ order f) (given : Nat → Given)
    : ∀ job ∈ Served.jobs order given, job.1.opening = job.1 := by
  intro job member
  obtain ⟨e, listed, rfl⟩ := List.mem_map.1 member
  obtain ⟨-, t, -, command, -⟩ := h.served e listed
  simp only [← command, Task.command, Command.opening_opening]

end Explained

/-- Once all tasks that were begun after a floor was at rest have finished, there is an order
in which their commands might have been carried out one after another.
-/
theorem serializable {before : Floor} (reached : before.Reachable)
    (rest : before.atRest = true) (later : List Turn)
    (ended
      : ((before.run later).tasks.drop before.tasks.length).all Task.isFinished = true)
    : ∃ order, SerialOrder before later order := by
  have consistent := reached.consistent
  obtain ⟨order, final, moments⟩ := (explains_nil consistent rest).run later
  rw [List.nil_append] at final
  have ended : ∀ index t, (before.run later).tasks[index]? = some t
      → before.tasks.length ≤ index → t.isFinished = true := by
    intro index t found late
    apply List.all_eq_true.1 ended t
    refine List.mem_of_getElem? (i := index - before.tasks.length) ?_
    rw [List.getElem?_drop, Nat.add_sub_cancel' late]
    exact found
  refine ⟨order, final.perm ended, fun e member => final.results ended member, ?_,
    Served.exists_agrees order _, fun given agrees => ?_⟩
  · intro moment rest split e member e' member' ⟨t, found, past⟩ late
    obtain ⟨now, after, rfl, explains⟩ := moments moment rest split
    rw [List.nil_append] at explains
    obtain ⟨begun, -⟩ := final.served e member
    exact explains.sublist final member member' (explains.listed found begun past) late
  · obtain ⟨results, store⟩ :=
      Market.serve_eq (consistent.free rest) (final.simple given)
    rw [results, store, final.serial given agrees, List.map_map]
    exact ⟨rfl, rfl⟩

namespace Sample

/-- Two companies are recorded as the first owner of an instrument at the same time: the
second one is in line for the lock before the first one has obtained it.
-/
def race : List Turn :=
  [
    .request (.recordIssuance ⟨⟨7⟩⟩ ⟨⟨1⟩⟩),
    .request (.recordIssuance ⟨⟨7⟩⟩ ⟨⟨2⟩⟩)
  ] ++ ([0, 1, 0, 1, 1, 0, 0, 0, 0, 0, 1, 0, 1, 1, 0, 0, 1, 1, 0].map .step)

end Sample

/-- The race for the first issuance has a serial order. -/
theorem serializable_race : ∃ order, SerialOrder Sample.opened Sample.race order :=
  serializable ⟨_, _, _, _, [], rfl⟩ rfl Sample.race (by decide)

end Floor

end DebtMarket
