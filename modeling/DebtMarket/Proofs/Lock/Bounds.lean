import Mathlib.Data.List.Dedup
import Mathlib.Data.List.Induction
import Mathlib.Data.List.Perm.Subperm
import Mathlib.Order.MinMax
import DebtMarket.Proofs.Lock.Exclusion

/-! The size of the lock tables. Keys that nobody uses any more are dropped only when another
key is entered and the table has reached its threshold. Right after an entry a table holds no
more keys than its threshold allows or than are in use, whichever is more; so the number of
users at a time bounds its size, however many keys were ever locked.
-/

namespace DebtMarket

namespace LockTable

variable {κ : Type} {t : LockTable κ} {uses : List (SlotUse κ)}

/-- A table that was pruned has room, or all its slots are in use. -/
theorem prune_cases (t : LockTable κ)
    : (t.prune = t ∧ t.size < t.threshold) ∨ ∀ s ∈ t.prune.slots, s.inUse = true := by
  unfold LockTable.prune
  split
  · exact .inr fun s member => (List.mem_filter.1 member).2
  · next room => exact .inl ⟨rfl, Nat.lt_of_not_le room⟩

theorem prune_threshold (t : LockTable κ) : t.prune.threshold = t.threshold := by
  unfold LockTable.prune
  split <;> rfl

@[simp]
theorem change_threshold (t : LockTable κ) (number : Nat) (f : Slot κ → Slot κ)
    : (t.change number f).threshold = t.threshold :=
  rfl

/-- A change of a slot tracks no other keys than before. -/
@[simp]
theorem size_change (t : LockTable κ) (number : Nat) (f : Slot κ → Slot κ)
    : (t.change number f).size = t.size :=
  List.length_map _

variable [DecidableEq κ]

/-- The keys that are in use: someone holds their locks or waits for them. -/
def keysInUse (uses : List (SlotUse κ)) : List κ :=
  (uses.map SlotUse.key).dedup

/-- The order in which uses are counted does not matter. -/
theorem length_keysInUse_perm {uses' : List (SlotUse κ)} (same : uses.Perm uses')
    : (keysInUse uses).length = (keysInUse uses').length :=
  (same.map _).dedup.length_eq

/-- A table whose slots are all in use tracks no other keys than those in use. -/
theorem Accounts.size_le_inUse (h : t.Accounts uses) (inUse : ∀ s ∈ t.slots, s.inUse = true)
    : t.size ≤ (keysInUse uses).length := by
  have used : t.slots.map Slot.key ⊆ keysInUse uses := by
    intro key member
    obtain ⟨s, stored, rfl⟩ := List.mem_map.1 member
    have someone : s.users ≠ [] := by simpa [Slot.inUse] using inUse s stored
    obtain ⟨ticket, user⟩ := List.exists_mem_of_ne_nil _ someone
    obtain ⟨u, atSlot, -⟩ := List.mem_map.1 ((h.users s stored).mem_iff.1 user)
    obtain ⟨inUses, number⟩ := List.mem_filter.1 atSlot
    obtain ⟨r, placed, sameNumber, ofKey⟩ := h.placed u inUses
    have same : r = s :=
      List.inj_on_of_nodup_map h.numbers placed stored
        (sameNumber.trans (by simpa using number))
    subst same
    exact List.mem_dedup.2 (List.mem_map.2 ⟨u, inUses, ofKey.symm⟩)
  calc t.size = (t.slots.map Slot.key).length := (List.length_map _).symm
    _ ≤ (keysInUse uses).length := (List.subperm_of_subset h.keys used).length_le

theorem enter_threshold (t : LockTable κ) (key : κ) (ticket : Ticket)
    : (t.enter key ticket).2.threshold = t.threshold := by
  cases found : t.prune.slotOf? key with
  | some s => rw [enter_of_some found, change_threshold, prune_threshold]
  | none => rw [enter_of_none found, prune_threshold]

/-- An entry adds one key to the pruned table at most. -/
theorem size_enter_le (t : LockTable κ) (key : κ) (ticket : Ticket)
    : (t.enter key ticket).2.size ≤ t.prune.size + 1 := by
  cases found : t.prune.slotOf? key with
  | some s =>
      rw [enter_of_some found, size_change]
      exact Nat.le_succ _
  | none =>
      rw [enter_of_none found, size, List.length_append]
      exact Nat.le_refl _

/-- An entry into a table whose slots are all in use leaves them so. -/
theorem inUse_enter (key : κ) (ticket : Ticket)
    (inUse : ∀ s ∈ t.prune.slots, s.inUse = true)
    : ∀ s ∈ (t.enter key ticket).2.slots, s.inUse = true := by
  cases found : t.prune.slotOf? key with
  | some s =>
      rw [enter_of_some found]
      intro r member
      obtain ⟨r, stored, rfl⟩ := List.mem_map.1 member
      split
      · simp [Slot.inUse, Slot.enter]
      · exact inUse r stored
  | none =>
      rw [enter_of_none found]
      intro r member
      rcases List.mem_append.1 member with old | new
      · exact inUse r old
      · rw [List.mem_singleton.1 new]
        rfl

/-- Right after an entry the table has not outgrown its threshold, or all its keys are in use.
-/
theorem Accounts.size_enter (h : t.Accounts uses) (key : κ) (ticket : Ticket)
    : (t.enter key ticket).2.size
      ≤ max t.threshold
          (keysInUse (⟨key, (t.enter key ticket).1, ticket, false⟩ :: uses)).length := by
  rcases t.prune_cases with ⟨unpruned, room⟩ | inUse
  · have added := t.size_enter_le key ticket
    rw [unpruned] at added
    exact le_max_of_le_left (Nat.le_trans added room)
  · have used := inUse_enter key ticket inUse
    exact le_max_of_le_right ((h.enter key ticket).size_le_inUse used)

end LockTable

/-- Whether two scopes are of one kind, and so have their locks in the same table. -/
def Scope.sameKind : Scope → Scope → Bool
  | .instrument _, .instrument _ | .listing _, .listing _ => true
  | .instrument _, .listing _ | .listing _, .instrument _ => false

namespace Locks

/-- The number of keys that are tracked in the table of a scope. -/
def tracked (l : Locks) : Scope → Nat
  | .instrument _ => l.instruments.size
  | .listing _ => l.listings.size

/-- The threshold of the table of a scope. -/
def threshold (l : Locks) : Scope → Nat
  | .instrument _ => l.instruments.threshold
  | .listing _ => l.listings.threshold

variable (l : Locks) (scope : Scope)

theorem enter_threshold (entered : Scope)
    : (l.enter entered).2.threshold scope = l.threshold scope := by
  cases entered <;> cases scope <;> simp [enter, threshold, LockTable.enter_threshold]

theorem join_threshold (guard : Guard) : (l.join guard).threshold scope = l.threshold scope := by
  unfold join
  split <;> cases scope <;> simp [threshold, LockTable.join]

theorem leave_threshold (guard : Guard)
    : (l.leave guard).threshold scope = l.threshold scope := by
  unfold leave
  split <;> cases scope <;> simp [threshold, LockTable.leave]

theorem join_tracked (guard : Guard) : (l.join guard).tracked scope = l.tracked scope := by
  unfold join
  split <;> cases scope <;> simp [tracked, LockTable.join]

theorem leave_tracked (guard : Guard) : (l.leave guard).tracked scope = l.tracked scope := by
  unfold leave
  split <;> cases scope <;> simp [tracked, LockTable.leave]

/-- An entry leaves the table of the other kind alone. -/
theorem enter_tracked {entered : Scope} (other : entered.sameKind scope = false)
    : (l.enter entered).2.tracked scope = l.tracked scope := by
  cases entered <;> cases scope <;> cases other <;> rfl

end Locks

namespace Crowd

/-- The claims on the table of a scope, each of a task that holds a lock or waits for one. -/
def claimsBeside (c : Crowd) (scope : Scope) : List Claim :=
  c.claims.filter fun a => a.guard.scope.sameKind scope

/-- The scopes in the table of a scope that have a holder or someone who waits. -/
def engaged (c : Crowd) (scope : Scope) : List Scope :=
  ((c.claimsBeside scope).map fun a => a.guard.scope).dedup

/-- The instruments that are engaged are the keys in use of their table. -/
theorem engaged_instrument (c : Crowd) (id : InstrumentId)
    : c.engaged (.instrument id)
      = (LockTable.keysInUse (c.claims.filterMap Claim.instrumentUse?)).map Scope.instrument := by
  have injective : Function.Injective Scope.instrument := fun _ _ same => by cases same; rfl
  rw [LockTable.keysInUse, ← List.dedup_map_of_injective injective, engaged, claimsBeside]
  congr 1
  induction c.claims with
  | nil => rfl
  | cons a rest ih =>
      obtain ⟨⟨of, slot, ticket⟩, joined⟩ := a
      cases of with
      | instrument other => exact congrArg _ ih
      | listing other => exact ih

/-- The listings that are engaged are the keys in use of their table. -/
theorem engaged_listing (c : Crowd) (id : ListingId)
    : c.engaged (.listing id)
      = (LockTable.keysInUse (c.claims.filterMap Claim.listingUse?)).map Scope.listing := by
  have injective : Function.Injective Scope.listing := fun _ _ same => by cases same; rfl
  rw [LockTable.keysInUse, ← List.dedup_map_of_injective injective, engaged, claimsBeside]
  congr 1
  induction c.claims with
  | nil => rfl
  | cons a rest ih =>
      obtain ⟨⟨of, slot, ticket⟩, joined⟩ := a
      cases of with
      | instrument other => exact ih
      | listing other => exact congrArg _ ih

/-- Every engaged scope takes a claim at least. -/
theorem engaged_le (c : Crowd) (scope : Scope)
    : (c.engaged scope).length ≤ (c.claimsBeside scope).length := by
  let scopes := (c.claimsBeside scope).map fun a => a.guard.scope
  calc (c.engaged scope).length ≤ scopes.length := (List.dedup_sublist scopes).length_le
    _ = (c.claimsBeside scope).length := List.length_map _

variable {c : Crowd} {scope : Scope}

/-- Right after an entry the table of the scope has not outgrown its threshold, or all its keys
are engaged.
-/
theorem tracked_enter (h : c.locks.Accounts c.claims) (scope : Scope)
    : (c.after (.enter scope)).locks.tracked scope
      ≤ max (c.locks.threshold scope) ((c.after (.enter scope)).engaged scope).length := by
  let entered : Claim := ⟨(c.locks.enter scope).1, false⟩
  have same : (c.claims ++ [entered]).Perm (entered :: c.claims) :=
    List.perm_append_singleton _ _
  cases scope with
  | instrument id =>
      have counted := LockTable.length_keysInUse_perm (same.filterMap Claim.instrumentUse?)
      rw [engaged_instrument, List.length_map]
      exact (h.instruments.size_enter id c.locks.next).trans_eq (congrArg (max _) counted.symm)
  | listing id =>
      have counted := LockTable.length_keysInUse_perm (same.filterMap Claim.listingUse?)
      rw [engaged_listing, List.length_map]
      exact (h.listings.size_enter id c.locks.next).trans_eq (congrArg (max _) counted.symm)

/-- Only an entry changes how many keys are tracked, and only in the table of its scope. -/
theorem tracked_after (c : Crowd) (move : Move) (scope : Scope)
    : (c.after move).locks.tracked scope = c.locks.tracked scope
      ∨ ∃ entered, move = .enter entered ∧ entered.sameKind scope = true := by
  cases move with
  | enter entered =>
      cases alike : entered.sameKind scope with
      | true => exact .inr ⟨entered, rfl, alike⟩
      | false => exact .inl (c.locks.enter_tracked scope alike)
  | join index =>
      left
      unfold after
      dsimp only
      split
      · exact c.locks.join_tracked scope _
      · rfl
  | leave index =>
      left
      unfold after
      dsimp only
      split
      · exact c.locks.leave_tracked scope _
      · rfl

theorem run_append (c : Crowd) (moves more : List Move)
    : c.run (moves ++ more) = (c.run moves).run more :=
  List.foldl_append

/-- No move changes a threshold. -/
theorem threshold_after (c : Crowd) (move : Move) (scope : Scope)
    : (c.after move).locks.threshold scope = c.locks.threshold scope := by
  cases move with
  | enter entered => exact c.locks.enter_threshold scope entered
  | join index =>
      unfold after
      dsimp only
      split
      · exact c.locks.join_threshold scope _
      · rfl
  | leave index =>
      unfold after
      dsimp only
      split
      · exact c.locks.leave_threshold scope _
      · rfl

/-- No run changes a threshold, by induction on its moves. -/
theorem threshold_run (c : Crowd) (moves : List Move) (scope : Scope)
    : (c.run moves).locks.threshold scope = c.locks.threshold scope := by
  induction moves generalizing c with
  | nil => rfl
  | cons move rest ih => exact (ih (c.after move)).trans (threshold_after c move scope)

/-- Scopes of one kind have the same table, and the same claims are on it. -/
theorem beside_congr {entered : Scope} (same : entered.sameKind scope = true) (c : Crowd)
    : c.locks.tracked entered = c.locks.tracked scope
      ∧ c.claimsBeside entered = c.claimsBeside scope := by
  have kinds : (fun a : Claim => a.guard.scope.sameKind entered)
      = fun a => a.guard.scope.sameKind scope := by
    funext a
    cases a.guard.scope <;> cases entered <;> cases scope <;> cases same <;> rfl
  refine ⟨?_, congrArg c.claims.filter kinds⟩
  cases entered <;> cases scope <;> cases same <;> rfl

/-- Whatever threshold the tables have and whatever moves were made: right after a scope is
entered, its table tracks no more keys than the threshold or than are engaged, whichever is
more; and if there never were more than some number of claims on the table at a time, it tracks
no more keys than the threshold or that number.
-/
theorem tracked_bounded (threshold : Nat) (moves : List Move) (scope : Scope)
    : let crowd moment := (start threshold).run moment
      ((crowd (moves ++ [.enter scope])).locks.tracked scope
        ≤ max (max threshold 1) ((crowd (moves ++ [.enter scope])).engaged scope).length)
      ∧ ∀ most,
          (∀ moment, moment <+: moves → ((crowd moment).claimsBeside scope).length ≤ most)
            → (crowd moves).locks.tracked scope ≤ max (max threshold 1) most := by
  intro crowd
  have accounts (moment : List Move) : (crowd moment).locks.Accounts (crowd moment).claims :=
    accounts_run (Locks.accounts_empty threshold) moment
  have kept (moment : List Move) (entered : Scope)
      : (crowd moment).locks.threshold entered = max threshold 1 := by
    refine (threshold_run _ moment entered).trans ?_
    cases entered <;> rfl
  have after (moment : List Move) (move : Move)
      : crowd (moment ++ [move]) = (crowd moment).after move :=
    run_append _ _ _
  have entry (moment : List Move) (entered : Scope)
      : (crowd (moment ++ [.enter entered])).locks.tracked entered
        ≤ max (max threshold 1)
            ((crowd (moment ++ [.enter entered])).engaged entered).length := by
    have bound := tracked_enter (accounts moment) entered
    rwa [kept, ← after] at bound
  refine ⟨entry moves scope, fun most => ?_⟩
  -- only entries let a table grow, so the bound is carried from one entry to the next
  induction moves using List.reverseRecOn with
  | nil =>
      intro _
      cases scope <;> exact Nat.zero_le _
  | append_singleton earlier move ih =>
      intro few
      have before := ih fun moment shorter => few moment (shorter.trans (List.prefix_append _ _))
      rcases tracked_after (crowd earlier) move scope with same | ⟨entered, rfl, alike⟩
      · rw [after, same]
        exact before
      · have bound := entry earlier entered
        have engaged := engaged_le (crowd (earlier ++ [.enter entered])) entered
        obtain ⟨tracked, claims⟩ := beside_congr alike (crowd (earlier ++ [.enter entered]))
        rw [claims] at engaged
        rw [tracked] at bound
        have full := engaged.trans (few _ (List.prefix_refl _))
        exact bound.trans (max_le_max_left _ full)

end Crowd

end DebtMarket
