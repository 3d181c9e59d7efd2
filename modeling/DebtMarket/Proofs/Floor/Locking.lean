import DebtMarket.Proofs.Floor.Basic
import DebtMarket.Proofs.Lists

/-! Locks on the floor. Whatever turns are taken, the locks keep account of the claims of all
tasks, and every lock that a task counts as its own is held by it. So no two tasks keep the
same scope locked.
-/

namespace DebtMarket

namespace Task

/-- The claims of some tasks. -/
def claimsOf (tasks : List Task) : List Claim :=
  tasks.flatMap claims

/-- The locks that a task holds are among its claims. -/
theorem held_claims {t : Task} {guard : Guard} (member : guard ∈ t.held)
    : ⟨guard, true⟩ ∈ t.claims := by
  have held : ⟨guard, true⟩ ∈ Market.claimsOf t.held := List.mem_map.2 ⟨guard, member, rfl⟩
  unfold claims
  split
  · exact List.mem_cons_of_mem _ held
  · exact List.mem_cons_of_mem _ held
  · exact held

/-- The locks keep account of a task and all others, and it holds what it counts as its own.
-/
structure Secure (t : Task) (others : List Claim) (l : Locks) : Prop where
  accounts : l.Accounts (t.claims ++ others)
  holds : ∀ guard ∈ t.held, l.holds guard = true

/-- A change of a task and of the locks leaves the others what they hold. -/
structure Respects (t : Task) (others : List Claim) (l l' : Locks) : Prop where
  secure : t.Secure others l'
  leaves : ∀ c ∈ others, l.holds c.guard = true → l'.holds c.guard = true

variable {t : Task} {others : List Claim} {m : Market}

/-- A task that goes on without touching the locks leaves the others what they hold. -/
theorem Secure.respects {t' : Task} {l : Locks} (h : t.Secure others l)
    (claims : t'.claims = t.claims) (held : t'.held = t.held)
    : t'.Respects others l l where
  secure := ⟨by rw [claims]; exact h.accounts, by rw [held]; exact h.holds⟩
  leaves := fun _ _ holds => holds

/-- The tickets of others differ from those of a task. -/
theorem Secure.differs {l : Locks} (h : t.Secure others l) {c c' : Claim}
    (mine : c ∈ t.claims) (theirs : c' ∈ others)
    : c'.ticket ≠ c.ticket := by
  have distinct := h.accounts.tickets
  rw [List.map_append] at distinct
  intro same
  exact (List.nodup_append.1 distinct).2.2 c.ticket (List.mem_map_of_mem mine)
    c'.ticket (List.mem_map_of_mem theirs) same.symm

/-- Answering a call does not touch the locks. -/
theorem answer_locks (m : Market) (c : Call) : (m.answer c).2.locks = m.locks := by
  cases c with
  | now => rfl
  | draw kind => rfl
  | query q => rfl
  | write w =>
      simp only [Market.answer, Market.write_eq]
      split <;> rfl
  | publish happening time => rfl

/-- A step of an operation respects the locks of the others. -/
theorem Secure.advance (rest : Operation Outcome) (h : t.Secure others m.locks)
    (running : t.stage = .running rest)
    : (t.advance m rest).1.Respects others m.locks (t.advance m rest).2.locks := by
  have claims : t.claims = Market.claimsOf t.held := by rw [Task.claims, running]
  cases rest with
  | done a => exact h.respects claims.symm rfl
  | fail failure => exact h.respects claims.symm rfl
  | call c next =>
      simp only [Task.advance, answer_locks]
      exact h.respects claims.symm rfl
  | lock scope next =>
      refine ⟨⟨?_, fun guard member => ?_⟩, fun c member holds => ?_⟩
      · have entered := h.accounts.enter scope
        rw [claims] at entered
        exact entered
      · exact h.accounts.holds_enter scope (h.holds guard member)
      · exact h.accounts.holds_enter scope holds
  | unlock next =>
      cases held : t.held with
      | nil =>
          simp only [Task.advance, held]
          exact h.respects (claims.trans (by rw [held]; rfl)).symm held.symm
      | cons guard rest =>
          simp only [Task.advance, held]
          have accounts : m.locks.Accounts
              (⟨guard, true⟩ :: (Market.claimsOf rest ++ others)) := by
            have accounts := h.accounts
            rw [claims, held] at accounts
            exact accounts
          have apart := (List.nodup_cons.1 accounts.tickets).1
          have mine : guard ∈ t.held := held ▸ List.mem_cons_self
          refine ⟨⟨accounts.leave, fun other member => ?_⟩, fun c member holds => ?_⟩
          · refine accounts.holds_leave (fun same => apart ?_)
              (h.holds other (held ▸ List.mem_cons_of_mem _ member))
            have listed : ⟨other, true⟩ ∈ Market.claimsOf rest ++ others :=
              List.mem_append_left _ (List.mem_map.2 ⟨other, member, rfl⟩)
            exact same ▸ List.mem_map_of_mem listed
          · exact accounts.holds_leave (h.differs (held_claims mine) member) holds

/-- A step of a task respects the locks of the others. -/
theorem Secure.step (h : t.Secure others m.locks)
    : (t.step m).1.Respects others m.locks (t.step m).2.locks := by
  cases stage : t.stage with
  | running rest =>
      simp only [Task.step, stage]
      exact h.advance rest stage
  | entering guard rest =>
      have accounts : m.locks.Accounts
          (⟨guard, false⟩ :: (Market.claimsOf t.held ++ others)) := by
        have accounts := h.accounts
        rw [Task.claims, stage] at accounts
        exact accounts
      simp only [Task.step, stage]
      exact ⟨⟨accounts.join, fun other member => accounts.holds_join (h.holds other member)⟩,
        fun _ _ holds => accounts.holds_join holds⟩
  | waiting guard rest =>
      simp only [Task.step, stage]
      split
      · next first =>
          refine ⟨⟨?_, List.forall_mem_cons.2 ⟨first, h.holds⟩⟩, fun _ _ holds => holds⟩
          have accounts := h.accounts
          rw [Task.claims, stage] at accounts
          exact accounts
      · exact h.respects rfl rfl
  | finished result =>
      simp only [Task.step, stage]
      exact h.respects rfl rfl
  | dropped =>
      simp only [Task.step, stage]
      exact h.respects rfl rfl

/-- Claims that are given up one after the other leave the others what they hold, by
induction on them.
-/
theorem leave_all {claims others : List Claim} {m : Market}
    (h : m.locks.Accounts (claims ++ others))
    : ((claims.map Claim.guard).foldl Market.leave m).locks.Accounts others
      ∧ ∀ c ∈ others, m.locks.holds c.guard = true
          → ((claims.map Claim.guard).foldl Market.leave m).locks.holds c.guard = true := by
  induction claims generalizing m with
  | nil => exact ⟨h, fun _ _ holds => holds⟩
  | cons c rest ih =>
      have apart := (List.nodup_cons.1 h.tickets).1
      obtain ⟨accounts, leaves⟩ := ih (m := m.leave c.guard) h.leave
      refine ⟨accounts, fun other member holds => leaves other member ?_⟩
      refine h.holds_leave (fun same => apart ?_) holds
      exact same ▸ List.mem_map_of_mem (List.mem_append_right _ member)

/-- A task that is dropped respects the locks of the others. -/
theorem Secure.drop (h : t.Secure others m.locks)
    : (t.drop m).1.Respects others m.locks (t.drop m).2.locks := by
  have given := leave_all h.accounts
  unfold Task.drop
  split
  · exact h.respects rfl rfl
  · exact ⟨⟨given.1, fun _ member => absurd member List.not_mem_nil⟩, given.2⟩

end Task

namespace Floor

/-- The locks of a floor keep account of its tasks, and each holds what it counts as its own.
-/
structure Locked (f : Floor) : Prop where
  accounts : f.market.locks.Accounts (Task.claimsOf f.tasks)
  holds : ∀ t ∈ f.tasks, ∀ guard ∈ t.held, f.market.locks.holds guard = true

theorem locked_start (clock : Instant) (threshold : Nat) (outlet : Outlet)
    (source : IdKind → Nat → Uuid)
    : (start clock threshold outlet source).Locked where
  accounts := Locks.accounts_empty threshold
  holds := fun _ member => absurd member List.not_mem_nil

variable {f : Floor} {t : Task} {older younger : List Task}

/-- The claims of all tasks are those of one task and those of the others. -/
theorem claimsOf_middle (t : Task) (older younger : List Task)
    : (Task.claimsOf (older ++ t :: younger)).Perm
        (t.claims ++ Task.claimsOf (older ++ younger)) := by
  have moved : (older ++ t :: younger).Perm (t :: (older ++ younger)) := List.perm_middle
  exact moved.flatMap_right Task.claims

/-- Each task is secure among the others. -/
theorem Locked.secure (h : f.Locked) (tasks : f.tasks = older ++ t :: younger)
    : t.Secure (Task.claimsOf (older ++ younger)) f.market.locks where
  accounts := by
    have accounts := h.accounts
    rw [tasks] at accounts
    exact accounts.perm (claimsOf_middle t older younger)
  holds := h.holds t (tasks ▸ by simp)

/-- No other task keeps a scope locked that a task has locked. -/
theorem Locked.exclusive (h : f.Locked) (tasks : f.tasks = older ++ t :: younger)
    {other : Task} (member : other ∈ older ++ younger) {scope : Scope}
    (mine : scope ∈ t.scopes)
    : scope ∉ other.scopes := by
  intro theirs
  obtain ⟨guard, held, ofScope⟩ := List.mem_map.1 mine
  obtain ⟨guard', held', ofScope'⟩ := List.mem_map.1 theirs
  have secure := h.secure tasks
  have claimed := Task.held_claims held
  have claimed' : ⟨guard', true⟩ ∈ Task.claimsOf (older ++ younger) :=
    List.mem_flatMap.2 ⟨other, member, Task.held_claims held'⟩
  have present : other ∈ f.tasks := by
    rw [tasks]
    exact List.perm_middle.mem_iff.2 (List.mem_cons_of_mem _ member)
  refine secure.differs claimed claimed' (Eq.symm ?_)
  exact secure.accounts.holds_unique (List.mem_append_left _ claimed)
    (List.mem_append_right _ claimed') (ofScope.trans ofScope'.symm)
    (secure.holds guard held) (h.holds other present guard' held')

/-- A change of one task that respects the others keeps the floor locked. -/
theorem Locked.change (h : f.Locked) (tasks : f.tasks = older ++ t :: younger) {t' : Task}
    {m : Market}
    (respects : t'.Respects (Task.claimsOf (older ++ younger)) f.market.locks m.locks)
    : Locked ⟨m, older ++ t' :: younger⟩ where
  accounts := respects.secure.accounts.perm (claimsOf_middle t' older younger).symm
  holds := by
    intro other member guard held
    rcases List.mem_cons.1 (List.perm_middle.mem_iff.1 member) with rfl | member
    · exact respects.secure.holds guard held
    · have claimed : ⟨guard, true⟩ ∈ Task.claimsOf (older ++ younger) :=
        List.mem_flatMap.2 ⟨other, member, Task.held_claims held⟩
      have present : other ∈ f.tasks := by
        rw [tasks]
        exact List.perm_middle.mem_iff.2 (List.mem_cons_of_mem _ member)
      exact respects.leaves _ claimed (h.holds other present guard held)

/-- A task that has just been begun claims nothing. -/
theorem Locked.append (h : f.Locked) (c : Command)
    : Locked { f with tasks := f.tasks ++ [Task.start c] } where
  accounts := by
    have claims : Task.claimsOf (f.tasks ++ [Task.start c]) = Task.claimsOf f.tasks := by
      simp [Task.claimsOf, Task.claims, Task.start, Market.claimsOf]
    rw [claims]
    exact h.accounts
  holds := by
    intro t member guard held
    rcases List.mem_append.1 member with old | new
    · exact h.holds t old guard held
    · rw [List.mem_singleton.1 new] at held
      cases held

/-- Every turn keeps a floor locked. -/
theorem Locked.after (h : f.Locked) (turn : Turn) : (f.after turn).Locked := by
  cases turn with
  | request c => exact h.append c
  | setClock now => exact ⟨h.accounts, h.holds⟩
  | step index =>
      simp only [Floor.after, Floor.change]
      cases found : f.tasks[index]? with
      | none => exact h
      | some t =>
          obtain ⟨older, younger, tasks, -, set⟩ := split_at found
          simp only [set]
          exact h.change tasks (h.secure tasks).step
  | drop index =>
      simp only [Floor.after, Floor.change]
      cases found : f.tasks[index]? with
      | none => exact h
      | some t =>
          obtain ⟨older, younger, tasks, -, set⟩ := split_at found
          simp only [set]
          exact h.change tasks (h.secure tasks).drop
  | proceed index =>
      simp only [Floor.after]
      cases found : f.tasks[index]? with
      | none => exact h
      | some t =>
          cases sequel : t.sequel? with
          | none => simpa only [sequel] using h
          | some next =>
              obtain ⟨older, younger, tasks, -, set⟩ := split_at found
              simp only [sequel, set]
              have continued
                  : Locked ⟨f.market, older ++ { t with continued := true } :: younger⟩ :=
                h.change tasks ((h.secure tasks).respects rfl rfl)
              exact continued.append next

/-- Every schedule keeps a floor locked, by induction on it. -/
theorem Locked.run (h : f.Locked) (schedule : List Turn) : (f.run schedule).Locked := by
  induction schedule generalizing f with
  | nil => exact h
  | cons turn rest ih => exact ih (h.after turn)

end Floor

end DebtMarket
