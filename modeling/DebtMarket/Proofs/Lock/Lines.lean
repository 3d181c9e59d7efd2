import DebtMarket.Proofs.Lock.Accounts

/-! Lines of locks. Who has only entered the slot of a scope is in nobody's way: whoever claims
a scope holds it at once exactly if nobody is in line for it.
-/

namespace DebtMarket

/-- Nobody is in line for a scope. -/
def Unlined (claims : List Claim) (scope : Scope) : Prop :=
  ∀ c ∈ claims, c.joined = true → c.guard.scope ≠ scope

/-- Only those who are in line hold a lock. -/
theorem LockTable.Accounts.joined_of_holds {κ : Type} {t : LockTable κ}
    {uses : List (SlotUse κ)} (h : t.Accounts uses) {u : SlotUse κ}
    (distinct : ∀ v ∈ uses, v.ticket = u.ticket → v = u)
    (held : t.holds u.number u.ticket = true)
    : u.joined = true := by
  obtain ⟨s, stored, -, first⟩ := h.holds_iff.1 held
  have lined : u.ticket ∈ linedAt uses s.number :=
    (h.line s stored).mem_iff.1 (List.mem_of_head? first)
  obtain ⟨v, among, same⟩ := List.mem_map.1 lined
  obtain ⟨used, tests⟩ := List.mem_filter.1 among
  rw [← distinct v used same]
  exact (Bool.and_eq_true_iff.1 tests).2

namespace Locks

variable {l : Locks} {claims : List Claim} {scope : Scope}

/-- A claim is known by its ticket. -/
theorem Accounts.eq_of_ticket (h : l.Accounts claims) {c c' : Claim} (member : c ∈ claims)
    (member' : c' ∈ claims) (same : c'.ticket = c.ticket)
    : c' = c :=
  List.inj_on_of_nodup_map h.tickets member' member same

/-- Whoever holds a scope is in line for it. -/
theorem Accounts.joined_of_holds (h : l.Accounts claims) {c : Claim} (member : c ∈ claims)
    (held : l.holds c.guard = true)
    : c.joined = true := by
  obtain ⟨⟨scope, slot, ticket⟩, joined⟩ := c
  cases scope with
  | instrument id =>
      refine h.instruments.joined_of_holds (u := ⟨id, slot, ticket, joined⟩) ?_ held
      intro v used same
      obtain ⟨⟨⟨scope, slot, ticket⟩, joined⟩, claimed, use⟩ := List.mem_filterMap.1 used
      cases scope with
      | instrument id =>
          cases use
          cases h.eq_of_ticket member claimed same
          rfl
      | listing id => cases use
  | listing id =>
      refine h.listings.joined_of_holds (u := ⟨id, slot, ticket, joined⟩) ?_ held
      intro v used same
      obtain ⟨⟨⟨scope, slot, ticket⟩, joined⟩, claimed, use⟩ := List.mem_filterMap.1 used
      cases scope with
      | instrument id => cases use
      | listing id =>
          cases use
          cases h.eq_of_ticket member claimed same
          rfl

/-- Whoever claims a scope holds it at once exactly if nobody is in line for it: someone who is
in line waits for a holder, and a lock has one holder at most.
-/
theorem Accounts.claim_holds_iff (h : l.Accounts claims) (scope : Scope)
    : ((l.enter scope).2.join (l.enter scope).1).holds (l.enter scope).1 = true
      ↔ Unlined claims scope := by
  have entered := h.enter scope
  have claimed := entered.join
  have ofScope := enter_scope l scope
  constructor
  · intro held c member joined same
    obtain ⟨holder, among, other, before⟩ := h.exists_holder member joined
    have still := entered.holds_join (h.holds_enter scope before)
    have older := h.next holder among
    rw [claimed.holds_unique (List.mem_cons_of_mem _ among) List.mem_cons_self
      (other.trans (same.trans ofScope.symm)) still held, Claim.ticket, enter_ticket] at older
    exact Nat.lt_irrefl _ older
  · intro unlined
    obtain ⟨holder, among, same, held⟩ := claimed.exists_holder List.mem_cons_self rfl
    rcases List.mem_cons.1 among with rfl | before
    · exact held
    · exact absurd (same.trans ofScope) (unlined holder before (claimed.joined_of_holds among held))

end Locks

end DebtMarket
