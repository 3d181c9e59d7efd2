import DebtMarket.Proofs.Lock.Accounts

/-! Exclusion by the locks. Any number of users work with the locks at the same time: they
enter the slot of a scope, join its line, and leave, be it that they give up a lock or do
not wait for it any longer. Whatever they do and however often the tables are pruned, all
users of a scope meet at one slot, which has at most one holder, and users of different
scopes do not notice each other.
-/

namespace DebtMarket

namespace Locks

/-- The number of the slot that is stored for a scope. -/
def number? (l : Locks) : Scope → Option Nat
  | .instrument id => (l.instruments.slotOf? id).map Slot.number
  | .listing id => (l.listings.slotOf? id).map Slot.number

/-- The locks with both tables pruned. -/
def prune (l : Locks) : Locks :=
  { l with instruments := l.instruments.prune, listings := l.listings.prune }

variable {l : Locks} {claims : List Claim}

/-- Pruning drops only slots that nobody uses. -/
theorem Accounts.prune (h : l.Accounts claims) : l.prune.Accounts claims where
  instruments := h.instruments.prune
  listings := h.listings.prune
  tickets := h.tickets
  next := h.next

/-- The slot that is stored for a scope is the one that its users use. -/
theorem Accounts.number?_eq (h : l.Accounts claims) {c : Claim} (member : c ∈ claims)
    : l.number? c.guard.scope = some c.guard.slot := by
  obtain ⟨⟨scope, slot, ticket⟩, joined⟩ := c
  cases scope with
  | instrument id =>
      obtain ⟨s, found, number⟩ :=
        h.instruments.slotOf?_eq (List.mem_filterMap.2 ⟨_, member, rfl⟩)
      exact Option.map_eq_some_iff.2 ⟨s, found, number⟩
  | listing id =>
      obtain ⟨s, found, number⟩ :=
        h.listings.slotOf?_eq (List.mem_filterMap.2 ⟨_, member, rfl⟩)
      exact Option.map_eq_some_iff.2 ⟨s, found, number⟩

end Locks

/-- The locks, and the claims of all who use them at the moment. -/
structure Crowd where
  locks : Locks
  claims : List Claim

namespace Crowd

/-- What a user does next. -/
inductive Move where
  /-- Enters the slot of a scope, after the table was pruned if it is full. -/
  | enter (scope : Scope)
  /-- Joins the line of the slot. -/
  | join (index : Nat)
  /-- Gives the lock up, or does not wait for it any longer. -/
  | leave (index : Nat)
deriving DecidableEq, Repr

/-- Locks that nobody uses yet. -/
def start (threshold : Nat) : Crowd :=
  ⟨Locks.empty threshold, []⟩

/-- The crowd after a move; who is in line does not join it again. -/
def after (c : Crowd) : Move → Crowd
  | .enter scope =>
      let (guard, locks) := c.locks.enter scope
      ⟨locks, c.claims ++ [⟨guard, false⟩]⟩
  | .join index =>
      match c.claims[index]? with
      | some ⟨guard, false⟩ => ⟨c.locks.join guard, c.claims.set index ⟨guard, true⟩⟩
      | _ => c
  | .leave index =>
      match c.claims[index]? with
      | some claim => ⟨c.locks.leave claim.guard, c.claims.eraseIdx index⟩
      | none => c

/-- The crowd after some moves. -/
def run (c : Crowd) (moves : List Move) : Crowd :=
  moves.foldl after c

/-- The scope that a move concerns. -/
def scope? (c : Crowd) : Move → Option Scope
  | .enter scope => some scope
  | .join index => c.claims[index]?.map fun claim => claim.guard.scope
  | .leave index => c.claims[index]?.map fun claim => claim.guard.scope

/-- All users of a scope meet at the slot that is stored for it, and one of them excludes
the others.
-/
structure Exclusive (c : Crowd) : Prop where
  stored : ∀ a ∈ c.claims, c.locks.number? a.guard.scope = some a.guard.slot
  /-- Pruning does not drop a slot in use. -/
  spared : ∀ a ∈ c.claims, c.locks.prune.number? a.guard.scope = some a.guard.slot
  alone
    : c.claims.Pairwise fun a b => a.guard.scope = b.guard.scope
      → ¬(c.locks.holds a.guard = true ∧ c.locks.holds b.guard = true)
  /-- Nobody is in line without a holder of the same scope, be it themselves. -/
  awaited
    : ∀ a ∈ c.claims, a.joined = true → ∃ b ∈ c.claims,
      b.guard.scope = a.guard.scope ∧ c.locks.holds b.guard = true

variable {c : Crowd} {claim : Claim} {older younger : List Claim}

/-- The locks keep account of the claims over every move, by cases on it. -/
theorem accounts_after (h : c.locks.Accounts c.claims) (move : Move)
    : (c.after move).locks.Accounts (c.after move).claims := by
  cases move with
  | enter scope => exact (h.enter scope).perm (List.perm_append_singleton _ _).symm
  | join index =>
      unfold after
      dsimp only
      split
      · next guard found =>
          obtain ⟨older, younger, claims, -, set⟩ := split_at found
          rw [claims] at h
          rw [set]
          exact (h.perm List.perm_middle).join.perm List.perm_middle.symm
      · exact h
  | leave index =>
      unfold after
      dsimp only
      split
      · next claim found =>
          obtain ⟨older, younger, claims, erased, -⟩ := split_at found
          rw [claims] at h
          rw [erased]
          exact (h.perm List.perm_middle).leave
      · exact h

/-- The locks keep account of the claims over every run, by induction on the moves. -/
theorem accounts_run (h : c.locks.Accounts c.claims) (moves : List Move)
    : (c.run moves).locks.Accounts (c.run moves).claims := by
  induction moves generalizing c with
  | nil => exact h
  | cons move rest ih => exact ih (accounts_after h move)

/-- Locks that keep account of the claims exclude: two holders of a scope would have the same
ticket.
-/
theorem exclusive_of_accounts (h : c.locks.Accounts c.claims) : c.Exclusive where
  stored := fun a member => h.number?_eq member
  spared := fun a member => h.prune.number?_eq member
  alone := by
    have distinct : c.claims.Pairwise fun a b => a.ticket ≠ b.ticket :=
      List.pairwise_map.1 h.tickets
    refine distinct.imp_of_mem ?_
    intro a b member member' differs same held
    exact differs (h.holds_unique member member' same held.1 held.2)
  awaited := fun a member joined => h.exists_holder member joined

/-- A move that concerns another scope does not change whether a scope is held. -/
theorem holds_after_other (h : c.locks.Accounts c.claims) {a : Claim} (member : a ∈ c.claims)
    {move : Move} (other : c.scope? move ≠ some a.guard.scope)
    : (c.after move).locks.holds a.guard = c.locks.holds a.guard := by
  cases move with
  | enter scope =>
      apply h.holds_enter_other member
      intro same
      exact other (congrArg some same.symm)
  | join index =>
      unfold after
      dsimp only
      split
      · next guard found =>
          have entered : (⟨guard, false⟩ : Claim) ∈ c.claims := List.mem_of_getElem? found
          apply h.holds_join_other member entered
          intro same
          exact other (by rw [scope?, found, same]; rfl)
      · rfl
  | leave index =>
      unfold after
      dsimp only
      split
      · next claim found =>
          apply h.holds_leave_other member (List.mem_of_getElem? found)
          intro same
          exact other (by rw [scope?, found, same]; rfl)
      · rfl

/-- Whoever holds a scope keeps it over every move but their own leaving. -/
theorem holds_after (h : c.locks.Accounts c.claims) {a : Claim} (move : Move)
    (held : c.locks.holds a.guard = true) (stays : a ∈ (c.after move).claims)
    : (c.after move).locks.holds a.guard = true := by
  cases move with
  | enter scope => exact h.holds_enter scope held
  | join index =>
      unfold after
      dsimp only
      split
      · next guard found =>
          obtain ⟨older, younger, claims, -, -⟩ := split_at found
          rw [claims] at h
          exact (h.perm List.perm_middle).holds_join held
      · exact held
  | leave index =>
      unfold after at stays ⊢
      dsimp only at stays ⊢
      split at stays
      · next claim found =>
          obtain ⟨older, younger, claims, erased, -⟩ := split_at found
          rw [claims] at h
          rw [erased] at stays
          have accounts := h.perm List.perm_middle
          apply accounts.holds_leave _ held
          intro same
          have tickets := List.nodup_cons.1 accounts.tickets
          exact tickets.1 (same ▸ List.mem_map_of_mem stays)
      · exact held

/-- Whatever threshold the tables have and whatever moves are made, all users of a scope meet
at the slot that is stored for it, which has at most one holder. The holder stays until it
leaves; and no move changes whether another scope is held, be it the one of equal identifier
in the other table.
-/
theorem exclusive_run (threshold : Nat) (moves : List Move)
    : let c := (start threshold).run moves
      c.Exclusive
      ∧ ∀ move, ∀ a ∈ c.claims,
          (c.locks.holds a.guard = true → a ∈ (c.after move).claims
            → (c.after move).locks.holds a.guard = true)
          ∧ (c.scope? move ≠ some a.guard.scope
            → (c.after move).locks.holds a.guard = c.locks.holds a.guard) := by
  have accounts : ((start threshold).run moves).locks.Accounts
      ((start threshold).run moves).claims :=
    accounts_run (Locks.accounts_empty threshold) moves
  refine ⟨exclusive_of_accounts accounts, ?_⟩
  intro move a member
  constructor
  · intro held stays
    exact holds_after accounts move held stays
  · intro other
    exact holds_after_other accounts member other

end Crowd

end DebtMarket
