import DebtMarket.Lock
import DebtMarket.Proofs.Lock.Table

/-! The accounts of the locks. The claims on the locks are the guards of all acquisitions
that were begun and not yet given up. The locks keep account of the claims if both tables
do and every claim has a ticket of its own; then a scope has at most one holder, and whoever
claims a scope that nobody else claims holds it at once.
-/

namespace DebtMarket

/-- A guard in use, and whether it is in line. -/
structure Claim where
  guard : Guard
  joined : Bool

namespace Claim

/-- The use that a claim makes of the table of instruments. -/
def instrumentUse? : Claim → Option (SlotUse InstrumentId)
  | ⟨⟨.instrument id, slot, ticket⟩, joined⟩ => some ⟨id, slot, ticket, joined⟩
  | _ => none

/-- The use that a claim makes of the table of listings. -/
def listingUse? : Claim → Option (SlotUse ListingId)
  | ⟨⟨.listing id, slot, ticket⟩, joined⟩ => some ⟨id, slot, ticket, joined⟩
  | _ => none

/-- The ticket of a claim. -/
def ticket (c : Claim) : Ticket :=
  c.guard.ticket

/-- A use of the table of instruments has the ticket of its claim. -/
theorem ticket_of_instrumentUse? {claims : List Claim} {ticket : Ticket}
    (member : ticket ∈ (claims.filterMap instrumentUse?).map SlotUse.ticket)
    : ticket ∈ claims.map Claim.ticket := by
  obtain ⟨u, used, rfl⟩ := List.mem_map.1 member
  obtain ⟨⟨⟨scope, slot, ticket⟩, joined⟩, claimed, same⟩ := List.mem_filterMap.1 used
  cases scope with
  | instrument id =>
      cases same
      exact List.mem_map.2 ⟨_, claimed, rfl⟩
  | listing id => cases same

/-- A use of the table of listings has the ticket of its claim. -/
theorem ticket_of_listingUse? {claims : List Claim} {ticket : Ticket}
    (member : ticket ∈ (claims.filterMap listingUse?).map SlotUse.ticket)
    : ticket ∈ claims.map Claim.ticket := by
  obtain ⟨u, used, rfl⟩ := List.mem_map.1 member
  obtain ⟨⟨⟨scope, slot, ticket⟩, joined⟩, claimed, same⟩ := List.mem_filterMap.1 used
  cases scope with
  | instrument id => cases same
  | listing id =>
      cases same
      exact List.mem_map.2 ⟨_, claimed, rfl⟩

end Claim

namespace Locks

/-- Locks that keep account of the claims on them. -/
structure Accounts (l : Locks) (claims : List Claim) : Prop where
  instruments : l.instruments.Accounts (claims.filterMap Claim.instrumentUse?)
  listings : l.listings.Accounts (claims.filterMap Claim.listingUse?)
  tickets : (claims.map Claim.ticket).Nodup
  next : ∀ c ∈ claims, c.ticket < l.next

theorem accounts_empty (threshold : Nat) : (empty threshold).Accounts [] where
  instruments := LockTable.accounts_empty threshold
  listings := LockTable.accounts_empty threshold
  tickets := List.nodup_nil
  next := fun _ member => absurd member List.not_mem_nil

variable {l : Locks} {claims claims' : List Claim}

/-- The order in which claims are counted does not matter. -/
theorem Accounts.perm (h : l.Accounts claims) (same : claims.Perm claims')
    : l.Accounts claims' where
  instruments := h.instruments.perm (same.filterMap _)
  listings := h.listings.perm (same.filterMap _)
  tickets := (same.map _).nodup_iff.1 h.tickets
  next := fun c member => h.next c (same.mem_iff.2 member)

theorem enter_scope (l : Locks) (scope : Scope) : (l.enter scope).1.scope = scope := by
  cases scope <;> rfl

theorem enter_ticket (l : Locks) (scope : Scope) : (l.enter scope).1.ticket = l.next := by
  cases scope <;> rfl

theorem enter_next (l : Locks) (scope : Scope) : (l.enter scope).2.next = l.next + 1 := by
  cases scope <;> rfl

theorem join_next (l : Locks) (guard : Guard) : (l.join guard).next = l.next := by
  rw [join]
  split <;> rfl

theorem leave_next (l : Locks) (guard : Guard) : (l.leave guard).next = l.next := by
  rw [leave]
  split <;> rfl

-----------------------------------------------------------------------------------------
-- Every step of an acquisition keeps the accounts
-----------------------------------------------------------------------------------------

/-- A scope that is entered is claimed under a new ticket. -/
theorem Accounts.enter (h : l.Accounts claims) (scope : Scope)
    : (l.enter scope).2.Accounts (⟨(l.enter scope).1, false⟩ :: claims) := by
  have fresh : l.next ∉ claims.map Claim.ticket := by
    intro member
    obtain ⟨c, claimed, same⟩ := List.mem_map.1 member
    exact absurd (h.next c claimed) (by simp [same])
  refine {
    instruments := ?_
    listings := ?_
    tickets := ?_
    next := ?_
  }
  · cases scope with
    | instrument id => exact h.instruments.enter id l.next
    | listing id => exact h.instruments
  · cases scope with
    | instrument id => exact h.listings
    | listing id => exact h.listings.enter id l.next
  · refine List.nodup_cons.2 ⟨?_, h.tickets⟩
    rw [Claim.ticket, enter_ticket]
    exact fresh
  · rw [enter_next]
    refine List.forall_mem_cons.2 ⟨?_, fun c member => Nat.lt_succ_of_lt (h.next c member)⟩
    rw [Claim.ticket, enter_ticket]
    exact Nat.lt_succ_self _

/-- A claim may join its line. -/
theorem Accounts.join {guard : Guard} (h : l.Accounts (⟨guard, false⟩ :: claims))
    : (l.join guard).Accounts (⟨guard, true⟩ :: claims) := by
  obtain ⟨scope, slot, ticket⟩ := guard
  refine {
    instruments := ?_
    listings := ?_
    tickets := h.tickets
    next := ?_
  }
  · cases scope with
    | instrument id => exact LockTable.Accounts.join h.instruments
    | listing id => exact h.instruments
  · cases scope with
    | instrument id => exact h.listings
    | listing id => exact LockTable.Accounts.join h.listings
  · rw [join_next]
    exact List.forall_mem_cons.2 ⟨h.next ⟨⟨scope, slot, ticket⟩, false⟩ List.mem_cons_self,
      fun c member => h.next c (List.mem_cons_of_mem _ member)⟩

/-- A claim may be given up, in line or not. -/
theorem Accounts.leave {c : Claim} (h : l.Accounts (c :: claims))
    : (l.leave c.guard).Accounts claims := by
  obtain ⟨⟨scope, slot, ticket⟩, joined⟩ := c
  have distinct : ticket ∉ claims.map Claim.ticket := (List.nodup_cons.1 h.tickets).1
  refine {
    instruments := ?_
    listings := ?_
    tickets := (List.nodup_cons.1 h.tickets).2
    next := ?_
  }
  · cases scope with
    | instrument id =>
        exact LockTable.Accounts.leave h.instruments
          fun member => distinct (Claim.ticket_of_instrumentUse? member)
    | listing id => exact h.instruments
  · cases scope with
    | instrument id => exact h.listings
    | listing id =>
        exact LockTable.Accounts.leave h.listings
          fun member => distinct (Claim.ticket_of_listingUse? member)
  · rw [leave_next]
    exact fun c member => h.next c (List.mem_cons_of_mem _ member)

-----------------------------------------------------------------------------------------
-- Holding a scope
-----------------------------------------------------------------------------------------

/-- Whoever enters leaves the holders in place. -/
theorem Accounts.holds_enter (h : l.Accounts claims) (scope : Scope) {guard : Guard}
    (held : l.holds guard = true)
    : (l.enter scope).2.holds guard = true := by
  obtain ⟨of, slot, ticket⟩ := guard
  cases scope with
  | instrument id =>
      cases of with
      | instrument _ => exact h.instruments.holds_enter id l.next held
      | listing _ => exact held
  | listing id =>
      cases of with
      | instrument _ => exact held
      | listing _ => exact h.listings.holds_enter id l.next held

/-- Whoever joins a line leaves the holders in place. -/
theorem Accounts.holds_join {guard other : Guard}
    (h : l.Accounts (⟨guard, false⟩ :: claims)) (held : l.holds other = true)
    : (l.join guard).holds other = true := by
  obtain ⟨scope, slot, ticket⟩ := guard
  obtain ⟨of, slot', ticket'⟩ := other
  cases scope with
  | instrument id =>
      cases of with
      | instrument _ => exact LockTable.Accounts.holds_join h.instruments held
      | listing _ => exact held
  | listing id =>
      cases of with
      | instrument _ => exact held
      | listing _ => exact LockTable.Accounts.holds_join h.listings held

/-- Whoever leaves leaves the other holders in place. -/
theorem Accounts.holds_leave {c : Claim} (h : l.Accounts (c :: claims)) {other : Guard}
    (differs : other.ticket ≠ c.ticket) (held : l.holds other = true)
    : (l.leave c.guard).holds other = true := by
  obtain ⟨⟨scope, slot, ticket⟩, joined⟩ := c
  obtain ⟨of, slot', ticket'⟩ := other
  have distinct : ticket ∉ claims.map Claim.ticket := (List.nodup_cons.1 h.tickets).1
  cases scope with
  | instrument id =>
      cases of with
      | instrument _ =>
          exact LockTable.Accounts.holds_leave h.instruments
            (fun member => distinct (Claim.ticket_of_instrumentUse? member)) differs held
      | listing _ => exact held
  | listing id =>
      cases of with
      | instrument _ => exact held
      | listing _ =>
          exact LockTable.Accounts.holds_leave h.listings
            (fun member => distinct (Claim.ticket_of_listingUse? member)) differs held

/-- A scope has one holder. -/
theorem Accounts.holds_unique (h : l.Accounts claims) {c c' : Claim} (member : c ∈ claims)
    (member' : c' ∈ claims) (same : c.guard.scope = c'.guard.scope)
    (held : l.holds c.guard = true) (held' : l.holds c'.guard = true)
    : c.ticket = c'.ticket := by
  obtain ⟨⟨scope, slot, ticket⟩, joined⟩ := c
  obtain ⟨⟨scope', slot', ticket'⟩, joined'⟩ := c'
  cases same
  cases scope with
  | instrument id =>
      exact h.instruments.holds_unique (List.mem_filterMap.2 ⟨_, member, rfl⟩)
        (List.mem_filterMap.2 ⟨_, member', rfl⟩) rfl held held'
  | listing id =>
      exact h.listings.holds_unique (List.mem_filterMap.2 ⟨_, member, rfl⟩)
        (List.mem_filterMap.2 ⟨_, member', rfl⟩) rfl held held'

/-- Whoever is alone in claiming a scope holds it once in line. -/
theorem Accounts.holds_alone {guard : Guard} (h : l.Accounts (⟨guard, true⟩ :: claims))
    (alone : ∀ c ∈ claims, c.guard.scope ≠ guard.scope)
    : l.holds guard = true := by
  obtain ⟨scope, slot, ticket⟩ := guard
  cases scope with
  | instrument id =>
      apply LockTable.Accounts.holds_alone h.instruments rfl
      intro u member same
      obtain ⟨⟨⟨scope, slot, ticket⟩, joined⟩, claimed, use⟩ := List.mem_filterMap.1 member
      cases scope with
      | instrument id =>
          cases use
          exact alone _ claimed (congrArg Scope.instrument same)
      | listing id => cases use
  | listing id =>
      apply LockTable.Accounts.holds_alone h.listings rfl
      intro u member same
      obtain ⟨⟨⟨scope, slot, ticket⟩, joined⟩, claimed, use⟩ := List.mem_filterMap.1 member
      cases scope with
      | instrument id => cases use
      | listing id =>
          cases use
          exact alone _ claimed (congrArg Scope.listing same)

/-- Whoever is in line for a scope waits for a holder of it. -/
theorem Accounts.exists_holder (h : l.Accounts claims) {c : Claim} (member : c ∈ claims)
    (joined : c.joined = true)
    : ∃ holder ∈ claims, holder.guard.scope = c.guard.scope
        ∧ l.holds holder.guard = true := by
  obtain ⟨⟨scope, slot, ticket⟩, inLine⟩ := c
  cases scope with
  | instrument id =>
      obtain ⟨u, used, key, held⟩ :=
        h.instruments.exists_holder (List.mem_filterMap.2 ⟨_, member, rfl⟩) joined
      obtain ⟨⟨⟨scope, slot, ticket⟩, joined⟩, claimed, use⟩ := List.mem_filterMap.1 used
      cases scope with
      | instrument id =>
          cases use
          exact ⟨_, claimed, congrArg Scope.instrument key, held⟩
      | listing id => cases use
  | listing id =>
      obtain ⟨u, used, key, held⟩ :=
        h.listings.exists_holder (List.mem_filterMap.2 ⟨_, member, rfl⟩) joined
      obtain ⟨⟨⟨scope, slot, ticket⟩, joined⟩, claimed, use⟩ := List.mem_filterMap.1 used
      cases scope with
      | instrument id => cases use
      | listing id =>
          cases use
          exact ⟨_, claimed, congrArg Scope.listing key, held⟩

/-- Locks that nobody uses, holds or waits for. -/
structure Free (l : Locks) : Prop where
  instruments : ∀ s ∈ l.instruments.slots, s.users = [] ∧ s.line = []
  listings : ∀ s ∈ l.listings.slots, s.users = [] ∧ s.line = []

/-- Locks without claims on them are free. -/
theorem Accounts.free (h : l.Accounts []) : l.Free where
  instruments := fun _ stored => h.instruments.free stored
  listings := fun _ stored => h.listings.free stored

-----------------------------------------------------------------------------------------
-- Different scopes
-----------------------------------------------------------------------------------------

/-- Whether a scope is held does not depend on who enters another one. -/
theorem Accounts.holds_enter_other (h : l.Accounts claims) {c : Claim} (member : c ∈ claims)
    {scope : Scope} (differs : c.guard.scope ≠ scope)
    : (l.enter scope).2.holds c.guard = l.holds c.guard := by
  obtain ⟨⟨of, slot, ticket⟩, joined⟩ := c
  cases scope with
  | instrument id =>
      cases of with
      | instrument own =>
          have keys : own ≠ id := fun same => differs (congrArg Scope.instrument same)
          exact h.instruments.holds_enter_other (List.mem_filterMap.2 ⟨_, member, rfl⟩) keys
            l.next
      | listing _ => rfl
  | listing id =>
      cases of with
      | instrument _ => rfl
      | listing own =>
          have keys : own ≠ id := fun same => differs (congrArg Scope.listing same)
          exact h.listings.holds_enter_other (List.mem_filterMap.2 ⟨_, member, rfl⟩) keys
            l.next

/-- Whether a scope is held does not depend on what happens to the slot of another one. -/
theorem Accounts.holds_change_other (h : l.Accounts claims) {c c' : Claim}
    (member : c ∈ claims) (member' : c' ∈ claims) (differs : c.guard.scope ≠ c'.guard.scope)
    (f : {κ : Type} → Slot κ → Slot κ)
    (sameNumber : ∀ {κ : Type} (s : Slot κ), (f s).number = s.number)
    : Locks.holds
        (match c'.guard.scope with
          | .instrument _ => { l with instruments := l.instruments.change c'.guard.slot f }
          | .listing _ => { l with listings := l.listings.change c'.guard.slot f })
        c.guard
      = l.holds c.guard := by
  obtain ⟨⟨of, slot, ticket⟩, joined⟩ := c
  obtain ⟨⟨of', slot', ticket'⟩, joined'⟩ := c'
  cases of' with
  | instrument id =>
      cases of with
      | instrument own =>
          have keys : own ≠ id := fun same => differs (congrArg Scope.instrument same)
          exact h.instruments.holds_change_other (List.mem_filterMap.2 ⟨_, member, rfl⟩)
            (List.mem_filterMap.2 ⟨_, member', rfl⟩) keys sameNumber
      | listing _ => rfl
  | listing id =>
      cases of with
      | instrument _ => rfl
      | listing own =>
          have keys : own ≠ id := fun same => differs (congrArg Scope.listing same)
          exact h.listings.holds_change_other (List.mem_filterMap.2 ⟨_, member, rfl⟩)
            (List.mem_filterMap.2 ⟨_, member', rfl⟩) keys sameNumber

/-- Whether a scope is held does not depend on who joins the line of another one. -/
theorem Accounts.holds_join_other (h : l.Accounts claims) {c c' : Claim}
    (member : c ∈ claims) (member' : c' ∈ claims) (differs : c.guard.scope ≠ c'.guard.scope)
    : (l.join c'.guard).holds c.guard = l.holds c.guard :=
  h.holds_change_other member member' differs (fun s => s.join c'.guard.ticket) fun _ => rfl

/-- Whether a scope is held does not depend on who leaves another one. -/
theorem Accounts.holds_leave_other (h : l.Accounts claims) {c c' : Claim}
    (member : c ∈ claims) (member' : c' ∈ claims) (differs : c.guard.scope ≠ c'.guard.scope)
    : (l.leave c'.guard).holds c.guard = l.holds c.guard :=
  h.holds_change_other member member' differs (fun s => s.leave c'.guard.ticket) fun _ => rfl

end Locks

end DebtMarket
