import DebtMarket.Proofs.Command.Coverage
import DebtMarket.Proofs.Floor.Locking

/-! Consistency of the floor. A task is consistent with the store if what it still has to do
comes to the same as all of its command would if it began only now, for whatever it is given
in agreement with what it has read and drawn; and this stays so whatever others do that the
task's locks allow. A task takes effect in the step that decides it: there the effect of its
whole command on the store is what the step makes of the store.
-/

namespace DebtMarket

open Operation

/-- Giving up several locks changes nothing else, by induction on what is given up. -/
theorem Market.leaves_eq (m : Market) (guards : List Guard)
    : guards.foldl Market.leave m = { m with locks := guards.foldl Locks.leave m.locks } := by
  induction guards generalizing m with
  | nil => rfl
  | cons guard rest ih => exact ih (m.leave guard)

namespace Task

/-- A task that is consistent with the store. -/
structure Consistent (t : Task) (s : Store) : Prop where
  dropped : t.rest? = none → t.held = []
  orderly : ∀ p, t.rest? = some p → Orderly [] t.scopes t.drawn p
  guarded : ∀ p, t.rest? = some p → Guarded t.scopes s p
  faithful
    : ∀ p, t.rest? = some p → p.verdict = none
      → ∀ s₁, s.Keeps t.scopes s₁ → ∀ g : Given, g.Agrees t.drawn
        → t.command.operation.effect g s₁ = p.effect g s₁

/-- A task that has just been begun has all of its command to do. -/
theorem consistent_start (c : Command) (s : Store) : (Task.start c).Consistent s where
  dropped := fun none => by cases none
  orderly := fun p rest => by
    cases rest
    exact c.orderly_opening
  guarded := fun p rest => by
    cases rest
    exact c.guarded_opening s
  faithful := fun p rest _ s₁ _ g _ => by
    cases rest
    rfl

/-- A task stays consistent whatever others do that its locks allow. -/
theorem Consistent.keeps {t : Task} {s s₁ : Store} (h : t.Consistent s)
    (k : s.Keeps t.scopes s₁)
    : t.Consistent s₁ where
  dropped := h.dropped
  orderly := h.orderly
  guarded := fun p rest => (h.guarded p rest).keeps k
  faithful := fun p rest undecided s₂ k₂ => h.faithful p rest undecided s₂ (k.trans k₂)

/-- A move of a task that changes the store at most when it decides the task: then it makes
of the store what all of its command would have made of it at once.
-/
structure Moves (t : Task) (s : Store) (t' : Task) (s' : Store) : Prop where
  request : t'.request = t.request
  consistent : t'.Consistent s'
  apart : ∀ others, (∀ scope ∈ others, scope ∉ t.scopes) → s.Keeps others s'
  gone : t.rest? = none → t' = t
  decided
    : ∀ result, t.verdict? = some result
      → t'.verdict? = some result ∧ t'.drawn = t.drawn ∧ s' = s
  undecided : t.verdict? = none → t'.verdict? = none → s' = s
  effect
    : ∀ result, t.verdict? = none → t'.verdict? = some result
      → ∀ g : Given, g.Agrees t'.drawn
        → ∃ notices, t.command.operation.effect g s = ⟨result, s', notices⟩

/-- A task that stays where it is moves in no way. -/
theorem Consistent.stays {t : Task} {s : Store} (h : t.Consistent s) (sound : s.Sound)
    : t.Moves s t s where
  request := rfl
  consistent := h
  apart := fun _ _ => .refl sound
  gone := fun _ => rfl
  decided := fun _ decided => ⟨decided, rfl, rfl⟩
  undecided := fun _ _ => rfl
  effect := fun _ undecided decided => by simp [undecided] at decided

section Moves

variable {t t' : Task} {s s' : Store} {p p' : Operation Outcome}

theorem verdict?_eq (rest : t.rest? = some p) : t.verdict? = p.verdict := by
  rw [verdict?, rest]
  rfl

/-- A task that only changes what it calls its stage has not moved otherwise. -/
theorem Consistent.renames (h : t.Consistent s) (sound : s.Sound) (rest : t.rest? = some p)
    (rest' : t'.rest? = some p) (request : t'.request = t.request) (held : t'.held = t.held)
    (drawn : t'.drawn = t.drawn)
    : t.Moves s t' s := by
  have scopes : t'.scopes = t.scopes := by rw [scopes, held, Task.scopes]
  have command : t'.command = t.command := by rw [command, request, Task.command]
  refine {
    request
    consistent := {
      dropped := fun none => by simp [rest'] at none
      orderly := fun q same => ?_
      guarded := fun q same => ?_
      faithful := fun q same => ?_
    }
    apart := fun _ _ => .refl sound
    gone := fun none => by simp [rest] at none
    decided := fun result decided => ⟨?_, drawn, rfl⟩
    undecided := fun _ _ => rfl
    effect := fun result undecided decided => ?_
  }
  · cases rest'.symm.trans same
    rw [scopes, drawn]
    exact h.orderly p rest
  · cases rest'.symm.trans same
    rw [scopes]
    exact h.guarded p rest
  · cases rest'.symm.trans same
    rw [scopes, drawn, command]
    exact h.faithful p rest
  · rw [verdict?_eq rest', ← verdict?_eq rest, decided]
  · rw [verdict?_eq rest', ← verdict?_eq rest, undecided] at decided
    cases decided

/-- A task that was decided goes on to what it was decided to. -/
theorem Consistent.concludes (sound : s.Sound) {result : Except Failure Outcome}
    (rest : t.rest? = some p) (decided : p.verdict = some result)
    (rest' : t'.rest? = some p') (decided' : p'.verdict = some result)
    (orderly : Orderly [] t'.scopes t'.drawn p') (request : t'.request = t.request)
    (drawn : t'.drawn = t.drawn)
    : t.Moves s t' s where
  request
  consistent := {
    dropped := fun none => by simp [rest'] at none
    orderly := fun q same => by
      cases rest'.symm.trans same
      exact orderly
    guarded := fun q same => by
      cases rest'.symm.trans same
      exact .decided decided'
    faithful := fun q same undecided => by
      cases rest'.symm.trans same
      simp [decided'] at undecided
  }
  apart := fun _ _ => .refl sound
  gone := fun none => by simp [rest] at none
  decided := fun other same => by
    rw [verdict?_eq rest, decided] at same
    rw [verdict?_eq rest', decided']
    exact ⟨same, drawn, rfl⟩
  undecided := fun undecided _ => rfl
  effect := fun other undecided _ => by
    rw [verdict?_eq rest, decided] at undecided
    cases undecided

/-- A task that was not decided yet goes on in a way in which the rest of its command makes
the same of the store, and does not change the store unless it is decided now.
-/
theorem Consistent.proceeds (h : t.Consistent s) (sound : s.Sound)
    (rest : t.rest? = some p) (undecided : p.verdict = none) (rest' : t'.rest? = some p')
    (orderly : Orderly [] t'.scopes t'.drawn p') (guarded : Guarded t'.scopes s' p')
    (request : t'.request = t.request)
    (agrees : ∀ g : Given, g.Agrees t'.drawn → g.Agrees t.drawn)
    (apart : ∀ others, (∀ scope ∈ others, scope ∉ t.scopes) → s.Keeps others s')
    (effect : ∀ g : Given, g.Agrees t'.drawn → p.effect g s = p'.effect g s')
    (faithful : p'.verdict = none → s' = s
      ∧ ∀ s₁, s.Keeps t'.scopes s₁ → s.Keeps t.scopes s₁
          ∧ ∀ g : Given, g.Agrees t'.drawn → p.effect g s₁ = p'.effect g s₁)
    : t.Moves s t' s' := by
  have command : t'.command = t.command := by rw [command, request, Task.command]
  refine {
    request
    consistent := {
      dropped := fun none => by simp [rest'] at none
      orderly := fun q same => ?_
      guarded := fun q same => ?_
      faithful := fun q same undecided' s₁ k g agree => ?_
    }
    apart
    gone := fun none => by simp [rest] at none
    decided := fun result decided => ?_
    undecided := fun _ undecided' => ?_
    effect := fun result _ decided g agree => ?_
  }
  · cases rest'.symm.trans same
    exact orderly
  · cases rest'.symm.trans same
    exact guarded
  · cases rest'.symm.trans same
    obtain ⟨rfl, later⟩ := faithful undecided'
    obtain ⟨kept, effects⟩ := later s₁ k
    rw [command, h.faithful p rest undecided s₁ kept g (agrees g agree), effects g agree]
  · rw [verdict?_eq rest, undecided] at decided
    cases decided
  · rw [verdict?_eq rest'] at undecided'
    exact (faithful undecided').1
  · rw [verdict?_eq rest'] at decided
    obtain ⟨notices, ends⟩ := effect_of_verdict decided
    refine ⟨notices, ?_⟩
    rw [h.faithful p rest undecided s (.refl sound) g (agrees g agree), effect g agree, ends]

/-- A task that is decided now only closes, after a step that may change the store. -/
theorem Consistent.closes (h : t.Consistent s) (sound : s.Sound)
    (rest : t.rest? = some p) (undecided : p.verdict = none) (rest' : t'.rest? = some p')
    {well : Bool} (closing : Closing well t'.scopes p') (request : t'.request = t.request)
    (drawn : t'.drawn = t.drawn)
    (apart : ∀ others, (∀ scope ∈ others, scope ∉ t.scopes) → s.Keeps others s')
    (effect : ∀ g : Given, p.effect g s = p'.effect g s')
    : t.Moves s t' s' := by
  obtain ⟨result, decided⟩ := closing.verdict_eq
  refine h.proceeds sound rest undecided rest' (.close closing) (.decided decided) request
    (fun g agree => ?_) apart (fun g _ => effect g) fun undecided' => ?_
  · rw [← drawn]
    exact agree
  · rw [decided] at undecided'
    cases undecided'

end Moves

-----------------------------------------------------------------------------------------
-- Every step of a task is a move
-----------------------------------------------------------------------------------------

section Steps

variable {t : Task} {m : Market}

/-- A task that reads the clock goes on as what is given to it says that it read. -/
theorem Consistent.reads {next : Instant → Operation Outcome} (h : t.Consistent m.store)
    (sound : m.store.Sound) (running : t.stage = .running (.call .now next))
    : t.Moves m.store (t.advance m (.call .now next)).1
        (t.advance m (.call .now next)).2.store := by
  have rest := rest?_running running
  obtain ⟨unread, orderly⟩ := (h.orderly _ rest).of_now
  have guarded := (h.guarded _ rest).of_now m.clock
  have read (g : Given) (agree : g.Agrees (t.drawn.reading m.clock)) : g.instant = m.clock :=
    agree.instant _ rfl
  refine h.proceeds sound rest rfl rfl (orderly m.clock) guarded rfl
    (fun g agree => ⟨fun time earlier => ?_, agree.uuid⟩) (fun _ _ => .refl sound)
    (fun g agree => ?_) fun _ => ⟨rfl, fun s₁ k => ⟨k, fun g agree => ?_⟩⟩
  · rw [unread] at earlier
    cases earlier
  · rw [Operation.effect, read g agree]
    rfl
  · rw [Operation.effect, read g agree]

/-- A task that draws an identifier goes on as what is given to it says that it drew. -/
theorem Consistent.draws {kind : IdKind} {next : Id kind → Operation Outcome}
    (h : t.Consistent m.store) (sound : m.store.Sound)
    (running : t.stage = .running (.call (.draw kind) next))
    : t.Moves m.store (t.advance m (.call (.draw kind) next)).1
        (t.advance m (.call (.draw kind) next)).2.store := by
  have rest := rest?_running running
  obtain ⟨undrawn, orderly⟩ := (h.orderly _ rest).of_draw
  have guarded := (h.guarded _ rest).of_draw (m.draw kind).1
  have drew (g : Given) (agree : g.Agrees (t.drawn.drawing (m.draw kind).1))
      : g.id kind = (m.draw kind).1 :=
    congrArg Id.mk (agree.uuid kind _ (if_pos rfl))
  refine h.proceeds sound rest rfl rfl (orderly _) guarded rfl
    (fun g agree => ⟨agree.instant, fun other uuid earlier => ?_⟩)
    (fun _ _ => .refl sound) (fun g agree => ?_)
    fun _ => ⟨rfl, fun s₁ k => ⟨k, fun g agree => ?_⟩⟩
  · apply agree.uuid other uuid
    have differs : other ≠ kind := by
      rintro rfl
      rw [undrawn] at earlier
      cases earlier
    exact (if_neg differs).trans earlier
  · rw [Operation.effect, drew g agree]
    rfl
  · rw [Operation.effect, drew g agree]
    rfl

/-- A task that queries the store is decided by the answer, or the answer lasts. -/
theorem Consistent.queries {q : Query} {next : q.Answer → Operation Outcome}
    (h : t.Consistent m.store) (sound : m.store.Sound)
    (running : t.stage = .running (.call (.query q) next))
    : t.Moves m.store (t.advance m (.call (.query q) next)).1
        (t.advance m (.call (.query q) next)).2.store := by
  have rest := rest?_running running
  have orderly := (h.orderly _ rest).of_query (m.store.answer q)
  obtain ⟨lasting, guarded⟩ := (h.guarded _ rest).of_query sound
  refine h.proceeds sound rest rfl rfl orderly guarded rfl (fun g agree => agree)
    (fun _ _ => .refl sound) (fun g _ => rfl)
    fun undecided => ⟨rfl, fun s₁ k => ⟨k, fun g _ => ?_⟩⟩
  rcases lasting with ⟨result, decided⟩ | lasting
  · rw [decided] at undecided
    cases undecided
  · exact lasting s₁ k g

/-- A task that writes is decided, whether the write is refused or accepted. -/
theorem Consistent.writes {w : Write} {next : Except StoreError Unit → Operation Outcome}
    (h : t.Consistent m.store) (sound : m.store.Sound)
    (running : t.stage = .running (.call (.write w) next))
    : t.Moves m.store (t.advance m (.call (.write w) next)).1
        (t.advance m (.call (.write w) next)).2.store := by
  have rest := rest?_running running
  obtain ⟨refused, accepted⟩ := (h.orderly _ rest).of_write
  have covered := (h.guarded _ rest).of_write
  simp only [advance, Market.answer, Market.write_eq]
  cases written : m.store.write w with
  | error e =>
      refine h.closes sound rest rfl rfl (refused e) rfl rfl (fun _ _ => .refl sound)
        fun g => ?_
      rw [Operation.effect, written]
  | ok s =>
      refine h.closes sound rest rfl rfl accepted rfl rfl
        (covered.apart _ (.refl sound) s written) fun g => ?_
      rw [Operation.effect, written]

/-- The answer to a call moves a task, by cases on the call: only an accepted write changes
the store, and it decides the task.
-/
theorem Consistent.calls {c : Call} {next : c.Reply → Operation Outcome}
    (h : t.Consistent m.store) (sound : m.store.Sound)
    (running : t.stage = .running (.call c next))
    : t.Moves m.store (t.advance m (.call c next)).1
        (t.advance m (.call c next)).2.store := by
  cases c with
  | now => exact h.reads sound running
  | draw kind => exact h.draws sound running
  | query q => exact h.queries sound running
  | write w => exact h.writes sound running
  | publish happening time =>
      have rest := rest?_running running
      have closing := (h.orderly _ rest).of_publish
      obtain ⟨result, decided⟩ := closing.verdict_eq
      exact Consistent.concludes sound rest decided rfl decided (.close closing) rfl rfl

/-- The next step of an operation moves a task, by cases on the operation. -/
theorem Consistent.advance {rest : Operation Outcome} (h : t.Consistent m.store)
    (sound : m.store.Sound) (running : t.stage = .running rest)
    : t.Moves m.store (t.advance m rest).1 (t.advance m rest).2.store := by
  have todo := rest?_running running
  cases rest with
  | done a => exact h.renames sound todo rfl rfl rfl rfl
  | fail failure => exact h.renames sound todo rfl rfl rfl rfl
  | call c next => exact h.calls sound running
  | lock scope next =>
      refine h.renames sound todo ?_ rfl rfl rfl
      simp only [Task.advance, rest?, Locks.enter_scope]
  | unlock next =>
      obtain ⟨well, scope, scopes, taken, closing⟩ := (h.orderly _ todo).of_unlock
      obtain ⟨guard, held, same, -, others⟩ := List.map_eq_cons_iff.1 taken
      obtain ⟨result, decided⟩ := closing.verdict_eq
      simp only [Task.advance, same]
      refine Consistent.concludes sound todo decided rfl decided ?_ rfl rfl
      rw [Task.scopes, others]
      exact .close closing

/-- Every step of a task is a move, by cases on its stage: obtaining a lock protects more
than was protected before.
-/
theorem Consistent.step (h : t.Consistent m.store) (sound : m.store.Sound)
    : t.Moves m.store (t.step m).1 (t.step m).2.store := by
  cases stage : t.stage with
  | running rest =>
      simp only [Task.step, stage]
      exact h.advance sound stage
  | entering guard rest =>
      have todo : t.rest? = some (.lock guard.scope rest) := by rw [rest?, stage]
      simp only [Task.step, stage]
      exact h.renames sound todo rfl rfl rfl rfl
  | waiting guard rest =>
      have todo : t.rest? = some (.lock guard.scope rest) := by rw [rest?, stage]
      simp only [Task.step, stage]
      split
      · obtain ⟨-, orderly⟩ := (h.orderly _ todo).of_lock
        have guarded := (h.guarded _ todo).of_lock sound
        exact h.proceeds sound todo rfl rfl orderly guarded rfl (fun g agree => agree)
          (fun _ _ => .refl sound) (fun g _ => rfl)
          fun _ => ⟨rfl, fun s₁ k =>
            ⟨k.mono fun scope member => List.mem_cons_of_mem _ member, fun g _ => rfl⟩⟩
      · exact h.stays sound
  | finished result =>
      simp only [Task.step, stage]
      exact h.stays sound
  | dropped =>
      simp only [Task.step, stage]
      exact h.stays sound

/-- A task that is dropped leaves the market as it is but for its locks. -/
theorem drop_market (t : Task) (m : Market) : ∃ locks, (t.drop m).2 = { m with locks } := by
  unfold drop
  split
  · exact ⟨m.locks, rfl⟩
  · exact ⟨_, m.leaves_eq _⟩

theorem drop_store (t : Task) (m : Market) : (t.drop m).2.store = m.store := by
  obtain ⟨locks, left⟩ := t.drop_market m
  rw [left]

/-- A task that is dropped either has finished before or has nothing to do any more. -/
theorem drop_cases (t : Task) (m : Market)
    : t.drop m = (t, m) ∨ (t.drop m).1 = { t with held := [], stage := .dropped } := by
  unfold drop
  split
  · exact .inl rfl
  · exact .inr rfl

/-- A task that is dropped is consistent with every store, if it was consistent before. -/
theorem Consistent.drop (h : t.Consistent m.store) : (t.drop m).1.Consistent m.store := by
  unfold Task.drop
  split
  · exact h
  · exact ⟨fun _ => rfl, nofun, nofun, nofun⟩

end Steps

end Task

-----------------------------------------------------------------------------------------
-- Every turn keeps the floor consistent
-----------------------------------------------------------------------------------------

namespace Floor

/-- A floor whose locks are kept, whose store is sound and with which all tasks are
consistent.
-/
structure Consistent (f : Floor) : Prop where
  locked : f.Locked
  sound : f.market.store.Sound
  tasks : ∀ t ∈ f.tasks, t.Consistent f.market.store

theorem consistent_start (clock : Instant) (threshold : Nat) (outlet : Outlet)
    (source : IdKind → Nat → Uuid)
    : (start clock threshold outlet source).Consistent where
  locked := locked_start clock threshold outlet source
  sound := Store.sound_empty
  tasks := fun _ member => absurd member List.not_mem_nil

variable {f : Floor} {t : Task} {older younger : List Task}

/-- A task that is begun is consistent from the start. -/
theorem Consistent.append (h : f.Consistent) (c : Command)
    : Consistent { f with tasks := f.tasks ++ [Task.start c] } where
  locked := h.locked.append c
  sound := h.sound
  tasks := fun t member => by
    rcases List.mem_append.1 member with old | new
    · exact h.tasks t old
    · rw [List.mem_singleton.1 new]
      exact Task.consistent_start c _

/-- A move of a task leaves the other tasks consistent, as none of them keeps a scope locked
that it has locked.
-/
theorem Consistent.moves (h : f.Consistent) (tasks : f.tasks = older ++ t :: younger)
    {t' : Task} {s : Store} (moves : t.Moves f.market.store t' s)
    : s.Sound ∧ ∀ other ∈ older ++ t' :: younger, other.Consistent s := by
  refine ⟨(moves.apart [] (fun _ member => absurd member List.not_mem_nil)).sound, ?_⟩
  intro other member
  rcases List.mem_cons.1 (List.perm_middle.mem_iff.1 member) with rfl | member
  · exact moves.consistent
  · have present : other ∈ f.tasks := by
      rw [tasks]
      exact List.perm_middle.mem_iff.2 (List.mem_cons_of_mem _ member)
    refine (h.tasks other present).keeps (moves.apart _ fun scope theirs mine => ?_)
    exact h.locked.exclusive tasks member mine theirs

/-- Every turn keeps a floor consistent. -/
theorem Consistent.after (h : f.Consistent) (turn : Turn) : (f.after turn).Consistent := by
  have locked := h.locked.after turn
  cases turn with
  | request c => exact h.append c
  | setClock now => exact ⟨locked, h.sound, h.tasks⟩
  | step index =>
      simp only [Floor.after, Floor.change] at locked ⊢
      cases found : f.tasks[index]? with
      | none => exact h
      | some t =>
          obtain ⟨older, younger, tasks, -, set⟩ := split_at found
          simp only [found, set] at locked ⊢
          have member : t ∈ f.tasks := tasks ▸ by simp
          obtain ⟨sound, others⟩ := h.moves tasks ((h.tasks t member).step h.sound)
          exact ⟨locked, sound, others⟩
  | drop index =>
      simp only [Floor.after, Floor.change] at locked ⊢
      cases found : f.tasks[index]? with
      | none => exact h
      | some t =>
          simp only [found] at locked ⊢
          refine ⟨locked, ?_, fun other member => ?_⟩
          · rw [Task.drop_store]
            exact h.sound
          · rw [Task.drop_store]
            rcases List.mem_or_eq_of_mem_set member with old | rfl
            · exact h.tasks other old
            · exact (h.tasks t (List.mem_of_getElem? found)).drop
  | proceed index =>
      simp only [Floor.after] at locked ⊢
      cases found : f.tasks[index]? with
      | none => exact h
      | some t =>
          cases sequel : t.sequel? with
          | none => simpa only [sequel] using h
          | some next =>
              simp only [found, sequel] at locked ⊢
              refine ⟨locked, h.sound, fun other member => ?_⟩
              rcases List.mem_append.1 member with old | new
              · rcases List.mem_or_eq_of_mem_set old with old | rfl
                · exact h.tasks other old
                · have same := h.tasks t (List.mem_of_getElem? found)
                  exact ⟨same.dropped, same.orderly, same.guarded, same.faithful⟩
              · rw [List.mem_singleton.1 new]
                exact Task.consistent_start next _

/-- Every schedule keeps a floor consistent, by induction on it. -/
theorem Consistent.run (h : f.Consistent) (schedule : List Turn)
    : (f.run schedule).Consistent := by
  induction schedule generalizing f with
  | nil => exact h
  | cons turn rest ih => exact ih (h.after turn)

/-- Every floor that can be reached is consistent. -/
theorem Reachable.consistent (h : f.Reachable) : f.Consistent := by
  obtain ⟨clock, threshold, outlet, source, schedule, rfl⟩ := h
  exact (consistent_start clock threshold outlet source).run schedule

end Floor

end DebtMarket
