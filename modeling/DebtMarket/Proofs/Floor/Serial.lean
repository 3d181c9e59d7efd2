import DebtMarket.Proofs.Floor.Consistency

/-! Serial order on the floor. Every task takes effect at one moment, when it is decided. The
order of these moments is an order in which the commands could have been carried out one
after the other, each given what its task has read and drawn, with the same results and the
same store in the end; and a task that was over before another one began comes before it.
-/

namespace DebtMarket

/-- Commands carried out one after another, each with what it is given: their results and
the store that they leave.
-/
def Store.serve (s : Store) : List (Command × Given) → List (Except Failure Outcome) × Store
  | [] => ([], s)
  | (c, g) :: rest =>
      let e := c.operation.effect g s
      let (results, s) := e.store.serve rest
      (e.result :: results, s)

/-- Commands carried out after others, by induction on those. -/
theorem Store.serve_append (s : Store) (jobs more : List (Command × Given))
    : s.serve (jobs ++ more)
      = ((s.serve jobs).1 ++ ((s.serve jobs).2.serve more).1,
          ((s.serve jobs).2.serve more).2) := by
  induction jobs generalizing s with
  | nil => rfl
  | cons job rest ih =>
      simp only [List.cons_append, Store.serve]
      rw [ih]

/-- A task that has taken effect, with its command and what it came to. -/
structure Served where
  index : Nat
  command : Command
  result : Except Failure Outcome

namespace Served

/-- The commands of some tasks with what each is given. -/
def jobs (history : List Served) (given : Nat → Given) : List (Command × Given) :=
  history.map fun e => (e.command, given e.index)

/-- What is given to some tasks agrees with what they have read and drawn. -/
def Agrees (history : List Served) (given : Nat → Given) (f : Floor) : Prop :=
  ∀ e ∈ history, ∀ t, f.tasks[e.index]? = some t → (given e.index).Agrees t.drawn

/-- Tasks that come to their results after others did. -/
theorem serve_append {history new : List Served} {given : Nat → Given} {s s₁ s₂ : Store}
    (before : s.serve (jobs history given) = (history.map result, s₁))
    (now : s₁.serve (jobs new given) = (new.map result, s₂))
    : s.serve (jobs (history ++ new) given) = ((history ++ new).map result, s₂) := by
  rw [jobs] at before now
  rw [jobs, List.map_append, Store.serve_append, before, now, List.map_append]

/-- What agrees with tasks after one of them has changed agrees with them before it has, if
that one has read and drawn nothing more.
-/
theorem agrees_of_set {history : List Served} {given : Nat → Given} {f : Floor} {m : Market}
    {index : Nat} {t t' : Task} (found : f.tasks[index]? = some t)
    (drawn : index ∈ history.map Served.index → t'.drawn = t.drawn)
    (agrees : Agrees history given ⟨m, f.tasks.set index t'⟩)
    : Agrees history given f := by
  intro e member other same
  by_cases differs : index = e.index
  · subst differs
    cases Option.some.inj (found.symm.trans same)
    rw [← drawn (List.mem_map_of_mem member)]
    apply agrees e member t'
    simp [(List.getElem?_eq_some_iff.1 found).1]
  · apply agrees e member other
    simpa [differs] using same

/-- Every task is given what it has read and drawn in a floor. -/
def given (f : Floor) (index : Nat) : Given :=
  (f.tasks[index]?.elim Drawn.nothing Task.drawn).given f.market.clock

/-- There is always something to give to tasks that agrees with what they have read and drawn.
-/
theorem exists_agrees (history : List Served) (f : Floor)
    : ∃ given, Agrees history given f := by
  refine ⟨given f, ?_⟩
  intro e _ t found
  simp only [given, found, Option.elim_some]
  exact t.drawn.agrees_given f.market.clock

end Served

/-- A task that is over without having come to a result was dropped. -/
theorem Task.rest?_of_over {t : Task} (past : t.isOver = true) (undecided : t.verdict? = none)
    : t.rest? = none := by
  unfold isOver at past
  unfold verdict? rest? at undecided
  unfold rest?
  split at past
  · next result stage =>
      rw [stage] at undecided
      cases result <;> cases undecided
  · next stage => rw [stage]
  · cases past

namespace Floor

/-- The tasks that took effect so far explain a floor: carried out one after the other on
the store of the beginning, from the first of the new tasks on, they come to their results
and leave the present store.
-/
structure Explains (first : Nat) (s₀ : Store) (history : List Served) (f : Floor) : Prop where
  consistent : f.Consistent
  begun : first ≤ f.tasks.length
  unique : (history.map Served.index).Nodup
  served
    : ∀ e ∈ history, first ≤ e.index ∧ ∃ t, f.tasks[e.index]? = some t
        ∧ t.command = e.command ∧ (t.rest? = none ∨ t.verdict? = some e.result)
  decided
    : ∀ index t, f.tasks[index]? = some t → first ≤ index → t.verdict? ≠ none
      → index ∈ history.map Served.index
  past : ∀ index t, f.tasks[index]? = some t → index < first → t.isOver = true
  serial
    : ∀ given, Served.Agrees history given f
      → s₀.serve (Served.jobs history given)
          = (history.map Served.result, f.market.store)

variable {f : Floor} {t t' : Task} {index first : Nat} {s₀ : Store}
  {history : List Served} {m : Market}

/-- A floor at rest is explained by no tasks at all. -/
theorem explains_nil (consistent : f.Consistent) (rest : f.atRest = true)
    : Explains f.tasks.length f.market.store [] f where
  consistent := consistent
  begun := Nat.le_refl _
  unique := List.nodup_nil
  served := fun _ member => absurd member List.not_mem_nil
  decided := fun index t found late _ => by
    have bound := (List.getElem?_eq_some_iff.1 found).1
    omega
  past := fun index t found _ =>
    List.all_eq_true.1 rest t (List.mem_of_getElem? found)
  serial := fun _ _ => rfl

/-- A task in the history has not been undecided since. -/
theorem Explains.not_mem (h : Explains first s₀ history f)
    (found : f.tasks[index]? = some t) (alive : t.rest? ≠ none)
    (undecided : t.verdict? = none)
    : index ∉ history.map Served.index := by
  intro member
  obtain ⟨e, served, rfl⟩ := List.mem_map.1 member
  obtain ⟨-, other, same, -, none | decided⟩ := h.served e served
  · cases Option.some.inj (found.symm.trans same)
    exact alive none
  · cases Option.some.inj (found.symm.trans same)
    rw [undecided] at decided
    cases decided

/-- What is given agrees with more tasks only if it agrees with fewer. -/
theorem agrees_append {new : List Served} {given : Nat → Given}
    (agrees : Served.Agrees (history ++ new) given f)
    : Served.Agrees history given f ∧ Served.Agrees new given f :=
  ⟨fun e member => agrees e (List.mem_append_left _ member),
    fun e member => agrees e (List.mem_append_right _ member)⟩

/-- A task changes, and those that take effect by it are served on the store before. -/
theorem Explains.changes {new : List Served} (h : Explains first s₀ history f)
    (found : f.tasks[index]? = some t)
    (consistent : Consistent ⟨m, f.tasks.set index t'⟩) (request : t'.request = t.request)
    (unique : ((history ++ new).map Served.index).Nodup)
    (mine : ∀ e ∈ new, e.index = index ∧ first ≤ index ∧ e.command = t.command
      ∧ t'.verdict? = some e.result)
    (drawn : index ∈ history.map Served.index → t'.drawn = t.drawn)
    (stands : ∀ result, t.rest? = none ∨ t.verdict? = some result
      → t'.rest? = none ∨ t'.verdict? = some result)
    (settled : t.verdict? = none → t'.verdict? ≠ none → index ∈ new.map Served.index)
    (past : t.isOver = true → t'.isOver = true)
    (serial : ∀ given, Served.Agrees new given ⟨m, f.tasks.set index t'⟩
      → f.market.store.serve (Served.jobs new given) = (new.map Served.result, m.store))
    : Explains first s₀ (history ++ new) ⟨m, f.tasks.set index t'⟩ := by
  have bound := (List.getElem?_eq_some_iff.1 found).1
  have here : (f.tasks.set index t')[index]? = some t' := by simp [bound]
  have elsewhere {i} (differs : index ≠ i) : (f.tasks.set index t')[i]? = f.tasks[i]? := by
    simp [differs]
  have command : t'.command = t.command := by rw [Task.command, request, Task.command]
  refine {
    consistent
    begun := by simpa using h.begun
    unique
    served := fun e member => ?_
    decided := fun i other same late decided => ?_
    past := fun i other same early => ?_
    serial := fun given agrees => ?_
  }
  · rcases List.mem_append.1 member with old | new
    · obtain ⟨late, other, same, ofTask, verdict⟩ := h.served e old
      refine ⟨late, ?_⟩
      by_cases differs : index = e.index
      · subst differs
        cases Option.some.inj (found.symm.trans same)
        exact ⟨t', here, command.trans ofTask, stands _ verdict⟩
      · exact ⟨other, (elsewhere differs).trans same, ofTask, verdict⟩
    · obtain ⟨rfl, late, ofTask, verdict⟩ := mine e new
      exact ⟨late, t', here, command.trans ofTask.symm, .inr verdict⟩
  · rw [List.map_append]
    by_cases differs : index = i
    · subst differs
      cases Option.some.inj (here.symm.trans same)
      by_cases before : t.verdict? = none
      · exact List.mem_append_right _ (settled before decided)
      · exact List.mem_append_left _ (h.decided index t found late before)
    · exact List.mem_append_left _
        (h.decided i other ((elsewhere differs).symm.trans same) late decided)
  · by_cases differs : index = i
    · subst differs
      cases Option.some.inj (here.symm.trans same)
      exact past (h.past index t found early)
    · exact h.past i other ((elsewhere differs).symm.trans same) early
  · obtain ⟨agreesOld, agreesNew⟩ := agrees_append agrees
    have old := Served.agrees_of_set found drawn agreesOld
    exact Served.serve_append (h.serial given old) (serial given agreesNew)

/-- A task that moves is served at once if the move decides it. -/
theorem Explains.moves (h : Explains first s₀ history f) (found : f.tasks[index]? = some t)
    (consistent : Consistent ⟨m, f.tasks.set index t'⟩)
    (moves : t.Moves f.market.store t' m.store)
    (past : t.isOver = true → t'.isOver = true)
    : ∃ new, Explains first s₀ (history ++ new) ⟨m, f.tasks.set index t'⟩ := by
  have stands : ∀ result, t.rest? = none ∨ t.verdict? = some result
      → t'.rest? = none ∨ t'.verdict? = some result := by
    rintro result (none | decided)
    · exact .inl (moves.gone none ▸ none)
    · exact .inr (moves.decided result decided).1
  cases before : t.verdict? with
  | some result =>
      obtain ⟨-, drawn, store⟩ := moves.decided result before
      refine ⟨[], h.changes found consistent moves.request (by simpa using h.unique)
        (by simp) (fun _ => drawn) stands (fun none => ?_) past fun _ _ => ?_⟩
      · rw [before] at none
        cases none
      · rw [store]
        rfl
  | none =>
      cases now : t'.verdict? with
      | none =>
          have store := moves.undecided before now
          have drawn (member : index ∈ history.map Served.index) : t'.drawn = t.drawn := by
            by_cases alive : t.rest? = none
            · rw [moves.gone alive]
            · exact absurd member (h.not_mem found alive before)
          refine ⟨[], h.changes found consistent moves.request (by simpa using h.unique)
            (by simp) drawn stands (fun _ some => absurd now some) past fun _ _ => ?_⟩
          rw [store]
          rfl
      | some result =>
          have alive : t.rest? ≠ none := by
            intro none
            rw [moves.gone none, before] at now
            cases now
          have late : first ≤ index := by
            by_contra early
            exact alive (Task.rest?_of_over (h.past index t found (by omega)) before)
          have absent := h.not_mem found alive before
          have here : (f.tasks.set index t')[index]? = some t' := by
            simp [(List.getElem?_eq_some_iff.1 found).1]
          refine ⟨[⟨index, t.command, result⟩], h.changes found consistent moves.request ?_ ?_
            (fun member => absurd member absent) stands (fun _ _ => by simp) past
            fun given agrees => ?_⟩
          · rw [List.map_append]
            exact List.nodup_append.2 ⟨h.unique, List.nodup_singleton _,
              fun i member j last same => absent (by
                have last : j = index := List.mem_singleton.1 last
                exact (same.trans last) ▸ member)⟩
          · rintro e member
            rw [List.mem_singleton.1 member]
            exact ⟨rfl, late, rfl, now⟩
          · have agree := agrees ⟨index, t.command, result⟩ List.mem_cons_self t' here
            obtain ⟨notices, effect⟩ := moves.effect result before now _ agree
            simp only [Served.jobs, List.map_cons, List.map_nil, Store.serve, effect]

/-- A task that is dropped keeps the effect that it had, if it had any. -/
theorem Explains.drops (h : Explains first s₀ history f) (found : f.tasks[index]? = some t)
    (consistent : Consistent
      ⟨(t.drop f.market).2, f.tasks.set index (t.drop f.market).1⟩)
    : Explains first s₀ history
        ⟨(t.drop f.market).2, f.tasks.set index (t.drop f.market).1⟩ := by
  have store := Task.drop_store t f.market
  have serial (given : Nat → Given) (_ : Served.Agrees []
      given ⟨(t.drop f.market).2, f.tasks.set index (t.drop f.market).1⟩)
      : f.market.store.serve (Served.jobs [] given)
          = (([] : List Served).map Served.result, (t.drop f.market).2.store) := by
    rw [store]
    rfl
  rw [← List.append_nil history]
  rcases Task.drop_cases t f.market with same | ended
  · exact h.changes found consistent (by rw [same]) (by simpa using h.unique) (by simp)
      (fun _ => by rw [same]) (fun result stood => by rw [same]; exact stood)
      (fun none some => absurd none (by rw [same] at some; exact some))
      (fun past => by rw [same]; exact past) serial
  · exact h.changes found consistent (by rw [ended]) (by simpa using h.unique) (by simp)
      (fun _ => by rw [ended]) (fun result _ => .inl (by rw [ended]; rfl))
      (fun _ some => absurd (by rw [ended]; rfl) some)
      (fun _ => by rw [ended]; rfl) serial

/-- The tasks after one was begun are the old ones and the new one at their end. -/
theorem getElem?_begun {tasks : List Task} {new : Task}
    (found : (tasks ++ [new])[index]? = some t)
    : tasks[index]? = some t ∨ index = tasks.length ∧ t = new := by
  rcases Nat.lt_trichotomy index tasks.length with lt | eq | gt
  · rw [List.getElem?_append_left lt] at found
    exact .inl found
  · subst eq
    simp only [List.getElem?_concat_length, Option.some.injEq] at found
    exact .inr ⟨rfl, found.symm⟩
  · rw [List.getElem?_eq_none (by simpa using Nat.succ_le_of_lt gt)] at found
    cases found

/-- A task is begun, and served at once if nothing can change what it comes to. -/
theorem Explains.appends {c : Command} {new : List Served} (h : Explains first s₀ history f)
    (mine : ∀ e ∈ new, e.index = f.tasks.length ∧ e.command = c.opening
      ∧ (Task.start c).verdict? = some e.result)
    (unique : (new.map Served.index).Nodup)
    (settled : (Task.start c).verdict? ≠ none → f.tasks.length ∈ new.map Served.index)
    (serial : ∀ given, f.market.store.serve (Served.jobs new given)
      = (new.map Served.result, f.market.store))
    : Explains first s₀ (history ++ new) { f with tasks := f.tasks ++ [Task.start c] } := by
  have last : (f.tasks ++ [Task.start c])[f.tasks.length]? = some (Task.start c) := by simp
  have old {i : Nat} {t : Task} (found : f.tasks[i]? = some t)
      : (f.tasks ++ [Task.start c])[i]? = some t := by
    rw [List.getElem?_append_left (List.getElem?_eq_some_iff.1 found).1]
    exact found
  refine {
    consistent := h.consistent.append c
    begun := by simpa using Nat.le_succ_of_le h.begun
    unique := ?_
    served := fun e member => ?_
    decided := fun i t found late decided => ?_
    past := fun i t found early => ?_
    serial := fun given agrees => ?_
  }
  · rw [List.map_append]
    refine List.nodup_append.2 ⟨h.unique, unique, fun i member j other same => ?_⟩
    obtain ⟨e, listed, rfl⟩ := List.mem_map.1 member
    obtain ⟨e', begun, rfl⟩ := List.mem_map.1 other
    obtain ⟨-, t, found, -⟩ := h.served e listed
    have bound := (List.getElem?_eq_some_iff.1 found).1
    have atEnd := (mine e' begun).1
    omega
  · rcases List.mem_append.1 member with member | member
    · obtain ⟨late, t, found, rest⟩ := h.served e member
      exact ⟨late, t, old found, rest⟩
    · obtain ⟨atEnd, command, verdict⟩ := mine e member
      exact ⟨atEnd ▸ h.begun, Task.start c, atEnd ▸ last, command.symm, .inr verdict⟩
  · rw [List.map_append]
    rcases getElem?_begun found with before | ⟨rfl, rfl⟩
    · exact List.mem_append_left _ (h.decided i t before late decided)
    · exact List.mem_append_right _ (settled decided)
  · rcases getElem?_begun found with before | ⟨rfl, rfl⟩
    · exact h.past i t before early
    · exact absurd h.begun (by omega)
  · have before := h.serial given fun e member t found =>
      (agrees_append agrees).1 e member t (old found)
    exact Served.serve_append before (serial given)

/-- A request that comes in is explained. -/
theorem Explains.begins (h : Explains first s₀ history f) (c : Command)
    : ∃ new, Explains first s₀ (history ++ new)
        { f with tasks := f.tasks ++ [Task.start c] } := by
  cases verdict : (Task.start c).verdict? with
  | none =>
      refine ⟨[], h.appends (by simp) List.nodup_nil (fun some => absurd verdict some) ?_⟩
      exact fun _ => rfl
  | some result =>
      refine ⟨[⟨f.tasks.length, c.opening, result⟩], h.appends (fun e member => ?_)
        (List.nodup_singleton _) (fun _ => by simp) fun given => ?_⟩
      · rw [List.mem_singleton.1 member]
        exact ⟨rfl, rfl, verdict⟩
      · obtain ⟨notices, effect⟩ := Operation.effect_of_verdict verdict
        simp only [Served.jobs, List.map_cons, List.map_nil, Store.serve, effect]

/-- A step leaves a task that is over as it is. -/
theorem isOver_step {m : Market} (past : t.isOver = true) : (t.step m).1.isOver = true := by
  cases stage : t.stage with
  | finished result => simpa only [Task.step, stage] using past
  | dropped => simpa only [Task.step, stage] using past
  | _ => simp [Task.isOver, stage] at past

/-- A turn is explained when what went before it is: only the tasks that take effect in it
join the history.
-/
theorem Explains.after (h : Explains first s₀ history f) (turn : Turn)
    : ∃ new, Explains first s₀ (history ++ new) (f.after turn) := by
  have consistent := h.consistent.after turn
  cases turn with
  | request c => exact h.begins c
  | setClock now =>
      refine ⟨[], ?_⟩
      rw [List.append_nil]
      exact ⟨consistent, h.begun, h.unique, h.served, h.decided, h.past, h.serial⟩
  | step index =>
      simp only [Floor.after, Floor.change] at consistent ⊢
      cases found : f.tasks[index]? with
      | none => exact ⟨[], by simpa using h⟩
      | some t =>
          simp only [found] at consistent ⊢
          have moves := (h.consistent.tasks t (List.mem_of_getElem? found)).step
            h.consistent.sound
          exact h.moves found consistent moves isOver_step
  | drop index =>
      simp only [Floor.after, Floor.change] at consistent ⊢
      cases found : f.tasks[index]? with
      | none => exact ⟨[], by simpa using h⟩
      | some t =>
          simp only [found] at consistent ⊢
          exact ⟨[], by simpa using h.drops found consistent⟩
  | proceed index =>
      simp only [Floor.after] at consistent ⊢
      cases found : f.tasks[index]? with
      | none => exact ⟨[], by simpa using h⟩
      | some t =>
          cases sequel : t.sequel? with
          | none => exact ⟨[], by simpa only [sequel, List.append_nil] using h⟩
          | some next =>
              obtain ⟨outcome, stage, -⟩ := Task.sequel?_eq_some sequel
              have todo : t.rest? = some (.done outcome) := by rw [Task.rest?, stage]
              have same := h.consistent.tasks t (List.mem_of_getElem? found)
              have moves : t.Moves f.market.store { t with continued := true }
                  f.market.store :=
                same.renames h.consistent.sound todo todo rfl rfl rfl
              obtain ⟨older, younger, tasks, -, set⟩ := split_at found
              have kept
                  : Consistent ⟨f.market, f.tasks.set index { t with continued := true }⟩ := by
                obtain ⟨sound, others⟩ := h.consistent.moves tasks moves
                rw [set]
                exact ⟨h.consistent.locked.change tasks
                  ((h.consistent.locked.secure tasks).respects rfl rfl), sound, others⟩
              obtain ⟨new, explains⟩ := h.moves found kept moves id
              obtain ⟨more, explains⟩ := explains.begins next
              exact ⟨new ++ more, by simpa only [sequel, List.append_assoc] using explains⟩

/-- Every schedule is explained moment by moment, by induction on it: what explains an
earlier moment begins what explains a later one.
-/
theorem Explains.run (h : Explains first s₀ history f) (schedule : List Turn)
    : ∃ more, Explains first s₀ (history ++ more) (f.run schedule)
        ∧ ∀ earlier later, schedule = earlier ++ later
          → ∃ now after, more = now ++ after
              ∧ Explains first s₀ (history ++ now) (f.run earlier) := by
  induction schedule generalizing f history with
  | nil =>
      refine ⟨[], by simpa using h, fun earlier later split => ?_⟩
      obtain ⟨rfl, rfl⟩ := List.append_eq_nil_iff.1 split.symm
      exact ⟨[], [], rfl, by simpa using h⟩
  | cons turn rest ih =>
      obtain ⟨new, first⟩ := h.after turn
      obtain ⟨more, final, moments⟩ := ih first
      refine ⟨new ++ more, by simpa using final, fun earlier later split => ?_⟩
      cases earlier with
      | nil => exact ⟨[], new ++ more, rfl, by simpa using h⟩
      | cons turn' earlier =>
          obtain ⟨rfl, rest⟩ := List.cons.inj split
          obtain ⟨now, after, cut, explains⟩ := moments earlier later rest
          exact ⟨new ++ now, after, by rw [cut, List.append_assoc], by simpa using explains⟩

end Floor

end DebtMarket
