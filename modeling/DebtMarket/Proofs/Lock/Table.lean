import DebtMarket.Lock.Table
import DebtMarket.Proofs.Lists

/-! The accounts of a lock table. The uses of a table are the acquisitions that were begun
and not yet given up. A table keeps account of its uses if each use has its slot, and every
slot lists exactly its users and, in its line, exactly those of them that joined it. Every
step of an acquisition keeps the accounts, and so does pruning.
-/

namespace DebtMarket

/-- The use that is made of a slot by one acquisition, from its entry to its end. -/
structure SlotUse (κ : Type) where
  key : κ
  number : Nat
  ticket : Ticket
  /-- Whether it is in line for the lock. -/
  joined : Bool

namespace LockTable

variable {κ : Type}

/-- The tickets of those who use the slot of a number. -/
def usersAt (uses : List (SlotUse κ)) (number : Nat) : List Ticket :=
  (uses.filter fun u => u.number == number).map SlotUse.ticket

/-- The tickets of those who are in line at the slot of a number. -/
def linedAt (uses : List (SlotUse κ)) (number : Nat) : List Ticket :=
  (uses.filter fun u => u.number == number && u.joined).map SlotUse.ticket

/-- A table that keeps account of the uses that are made of it. -/
structure Accounts (t : LockTable κ) (uses : List (SlotUse κ)) : Prop where
  numbers : (t.slots.map Slot.number).Nodup
  keys : (t.slots.map Slot.key).Nodup
  made : ∀ s ∈ t.slots, s.number < t.made
  placed : ∀ u ∈ uses, ∃ s ∈ t.slots, s.number = u.number ∧ s.key = u.key
  users : ∀ s ∈ t.slots, s.users.Perm (usersAt uses s.number)
  line : ∀ s ∈ t.slots, s.line.Perm (linedAt uses s.number)

theorem accounts_empty (threshold : Nat) : (empty threshold : LockTable κ).Accounts [] where
  numbers := List.nodup_nil
  keys := List.nodup_nil
  made := fun _ member => absurd member List.not_mem_nil
  placed := fun _ member => absurd member List.not_mem_nil
  users := fun _ member => absurd member List.not_mem_nil
  line := fun _ member => absurd member List.not_mem_nil

variable {t : LockTable κ} {uses uses' : List (SlotUse κ)} {s : Slot κ}

/-- The order in which uses are counted does not matter. -/
theorem Accounts.perm (h : t.Accounts uses) (same : uses.Perm uses') : t.Accounts uses' where
  numbers := h.numbers
  keys := h.keys
  made := h.made
  placed := fun u member => h.placed u (same.mem_iff.2 member)
  users := fun s member => (h.users s member).trans ((same.filter _).map _)
  line := fun s member => (h.line s member).trans ((same.filter _).map _)

/-- A use stands among the users of its slot. -/
theorem mem_usersAt {u : SlotUse κ} (member : u ∈ uses)
    : u.ticket ∈ usersAt uses u.number :=
  List.mem_map.2 ⟨u, List.mem_filter.2 ⟨member, by simp⟩, rfl⟩

/-- Nobody uses a number under which there is no slot. -/
theorem Accounts.usersAt_eq_nil (h : t.Accounts uses) {number : Nat}
    (unused : ∀ s ∈ t.slots, s.number ≠ number)
    : usersAt uses number = [] := by
  refine List.map_eq_nil_iff.2 (List.filter_eq_nil_iff.2 fun u member same => ?_)
  obtain ⟨s, stored, at_number, -⟩ := h.placed u member
  exact unused s stored (at_number.trans (by simpa using same))

/-- Only users are in line. -/
theorem mem_usersAt_of_linedAt {number : Nat} {ticket : Ticket}
    (member : ticket ∈ linedAt uses number)
    : ticket ∈ usersAt uses number := by
  obtain ⟨u, used, rfl⟩ := List.mem_map.1 member
  obtain ⟨inUses, test⟩ := List.mem_filter.1 used
  simp only [Bool.and_eq_true] at test
  exact List.mem_map.2 ⟨u, List.mem_filter.2 ⟨inUses, test.1⟩, rfl⟩

-----------------------------------------------------------------------------------------
-- Every step keeps the accounts
-----------------------------------------------------------------------------------------

/-- Pruning drops only slots that nobody uses. -/
theorem Accounts.prune (h : t.Accounts uses) : t.prune.Accounts uses := by
  unfold LockTable.prune
  split
  · have kept {s} (member : s ∈ t.slots.filter Slot.inUse) := (List.mem_filter.1 member).1
    refine {
      numbers := h.numbers.sublist (List.filter_sublist.map _)
      keys := h.keys.sublist (List.filter_sublist.map _)
      made := fun s member => h.made s (kept member)
      placed := fun u member => ?_
      users := fun s member => h.users s (kept member)
      line := fun s member => h.line s (kept member)
    }
    obtain ⟨s, stored, number, key⟩ := h.placed u member
    refine ⟨s, List.mem_filter.2 ⟨stored, ?_⟩, number, key⟩
    have user : u.ticket ∈ s.users :=
      (h.users s stored).mem_iff.2 (number ▸ mem_usersAt member)
    simpa [Slot.inUse] using List.ne_nil_of_mem user
  · exact h

/-- Accounts are kept by a change of one slot that accounts for the uses of that slot. -/
theorem Accounts.change (h : t.Accounts uses) {number : Nat} {f : Slot κ → Slot κ}
    (sameNumber : ∀ s, (f s).number = s.number) (sameKey : ∀ s, (f s).key = s.key)
    (placed : ∀ u ∈ uses', ∃ s ∈ t.slots, s.number = u.number ∧ s.key = u.key)
    (users : ∀ s ∈ t.slots,
      (if s.number = number then f s else s).users.Perm (usersAt uses' s.number))
    (line : ∀ s ∈ t.slots,
      (if s.number = number then f s else s).line.Perm (linedAt uses' s.number))
    : (t.change number f).Accounts uses' := by
  have numbered (s : Slot κ) : (if s.number = number then f s else s).number = s.number := by
    split <;> simp [sameNumber]
  have keyed (s : Slot κ) : (if s.number = number then f s else s).key = s.key := by
    split <;> simp [sameKey]
  refine {
    numbers := ?_
    keys := ?_
    made := ?_
    placed := ?_
    users := ?_
    line := ?_
  }
  · simpa [LockTable.change, Function.comp_def, numbered] using h.numbers
  · simpa [LockTable.change, Function.comp_def, keyed] using h.keys
  · intro s member
    obtain ⟨s, stored, rfl⟩ := List.mem_map.1 member
    rw [numbered]
    exact h.made s stored
  · intro u member
    obtain ⟨s, stored, at_number, of_key⟩ := placed u member
    exact ⟨_, List.mem_map.2 ⟨s, stored, rfl⟩, (numbered s).trans at_number,
      (keyed s).trans of_key⟩
  · intro s member
    obtain ⟨s, stored, rfl⟩ := List.mem_map.1 member
    rw [numbered]
    exact users s stored
  · intro s member
    obtain ⟨s, stored, rfl⟩ := List.mem_map.1 member
    rw [numbered]
    exact line s stored

/-- A user who joins the line is in line. -/
theorem Accounts.join {key : κ} {number : Nat} {ticket : Ticket}
    (h : t.Accounts (⟨key, number, ticket, false⟩ :: uses))
    : (t.join number ticket).Accounts (⟨key, number, ticket, true⟩ :: uses) := by
  refine h.change (fun _ => rfl) (fun _ => rfl) ?_ (fun s stored => ?_) fun s stored => ?_
  · intro u member
    rcases List.mem_cons.1 member with rfl | other
    · exact h.placed ⟨key, number, ticket, false⟩ List.mem_cons_self
    · exact h.placed u (List.mem_cons_of_mem _ other)
  · have users := h.users s stored
    by_cases here : s.number = number
    · simpa [here, Slot.join, usersAt] using users
    · simpa [here, Ne.symm here, usersAt] using users
  · have line := h.line s stored
    by_cases here : s.number = number
    · subst here
      simp only [linedAt, if_true, Slot.join] at line ⊢
      simp only [List.filter_cons, beq_self_eq_true, Bool.and_false, Bool.and_self,
        if_true, Bool.false_eq_true, if_false, List.map_cons] at line ⊢
      exact (List.perm_append_singleton _ _).trans (line.cons _)
    · simpa [here, Ne.symm here, linedAt] using line

/-- A user who leaves is neither among the users nor in line. -/
theorem Accounts.leave {u : SlotUse κ} (h : t.Accounts (u :: uses))
    (distinct : u.ticket ∉ uses.map SlotUse.ticket)
    : (t.leave u.number u.ticket).Accounts uses := by
  refine h.change (fun _ => rfl) (fun _ => rfl) ?_ (fun s stored => ?_) fun s stored => ?_
  · exact fun other member => h.placed other (List.mem_cons_of_mem _ member)
  · have users := h.users s stored
    by_cases here : s.number = u.number
    · simp only [here, if_true, Slot.leave]
      simp only [here, usersAt, List.filter_cons, beq_self_eq_true, if_true,
        List.map_cons] at users
      simpa [usersAt] using users.erase u.ticket
    · simpa [here, Ne.symm here, usersAt] using users
  · have line := h.line s stored
    by_cases here : s.number = u.number
    · simp only [here, if_true, Slot.leave]
      simp only [here, linedAt, List.filter_cons, beq_self_eq_true, Bool.true_and] at line
      cases joined : u.joined with
      | true =>
          simp only [joined, if_true, List.map_cons] at line
          simpa [linedAt] using line.erase u.ticket
      | false =>
          simp only [joined, Bool.false_eq_true, if_false] at line
          have absent : u.ticket ∉ s.line := by
            intro member
            obtain ⟨other, used, same⟩ := List.mem_map.1 (line.mem_iff.1 member)
            exact distinct (List.mem_map.2 ⟨other, (List.mem_filter.1 used).1, same⟩)
          rw [List.erase_of_not_mem absent]
          exact line
    · simpa [here, Ne.symm here, linedAt] using line

/-- A slot may take one more user. -/
theorem Accounts.enterSlot (h : t.Accounts uses) (stored : s ∈ t.slots) (ticket : Ticket)
    : (t.change s.number fun s => s.enter ticket).Accounts
        (⟨s.key, s.number, ticket, false⟩ :: uses) := by
  refine h.change (fun _ => rfl) (fun _ => rfl) ?_ (fun other member => ?_)
    fun other member => ?_
  · exact List.forall_mem_cons.2 ⟨⟨s, stored, rfl, rfl⟩, h.placed⟩
  · have users := h.users other member
    by_cases here : other.number = s.number
    · simp only [here, if_true, Slot.enter]
      simp only [here, usersAt, List.filter_cons, beq_self_eq_true, if_true,
        List.map_cons] at users ⊢
      exact (List.perm_append_singleton _ _).trans (users.cons _)
    · simpa [here, Ne.symm here, usersAt] using users
  · have line := h.line other member
    by_cases here : other.number = s.number
    · simpa [here, Slot.enter, linedAt] using line
    · simpa [here, linedAt] using line

/-- A key without a slot may be given a new one, whose number nobody uses yet. -/
theorem Accounts.addSlot (h : t.Accounts uses) {key : κ}
    (absent : ∀ s ∈ t.slots, s.key ≠ key) (ticket : Ticket)
    : LockTable.Accounts
        { t with slots := t.slots ++ [Slot.start t.made key ticket], made := t.made + 1 }
        (⟨key, t.made, ticket, false⟩ :: uses) := by
  have unmade : ∀ s ∈ t.slots, s.number ≠ t.made :=
    fun s member => Nat.ne_of_lt (h.made s member)
  have nobody : usersAt uses t.made = [] := h.usersAt_eq_nil unmade
  have noLine : linedAt uses t.made = [] :=
    List.eq_nil_iff_forall_not_mem.2 fun other member => by
      simpa [nobody] using mem_usersAt_of_linedAt member
  refine {
    numbers := ?_
    keys := ?_
    made := ?_
    placed := ?_
    users := ?_
    line := ?_
  }
  · rw [List.map_append]
    refine List.nodup_append.2 ⟨h.numbers, List.nodup_singleton _, ?_⟩
    intro number member last isLast same
    obtain ⟨s, stored, rfl⟩ := List.mem_map.1 member
    exact unmade s stored (same.trans (List.mem_singleton.1 isLast))
  · rw [List.map_append]
    refine List.nodup_append.2 ⟨h.keys, List.nodup_singleton _, ?_⟩
    intro number member last isLast same
    obtain ⟨s, stored, rfl⟩ := List.mem_map.1 member
    exact absent s stored (same.trans (List.mem_singleton.1 isLast))
  · intro s member
    rcases List.mem_append.1 member with old | new
    · exact Nat.lt_succ_of_lt (h.made s old)
    · rw [List.mem_singleton.1 new]
      exact Nat.lt_succ_self _
  · refine List.forall_mem_cons.2 ⟨⟨Slot.start t.made key ticket, by simp, rfl, rfl⟩, ?_⟩
    intro u member
    obtain ⟨s, stored, rest⟩ := h.placed u member
    exact ⟨s, List.mem_append_left _ stored, rest⟩
  · intro s member
    rcases List.mem_append.1 member with old | new
    · have users := h.users s old
      simpa [usersAt, Ne.symm (unmade s old)] using users
    · rw [List.mem_singleton.1 new]
      simp only [usersAt, Slot.start, List.filter_cons, beq_self_eq_true, if_true,
        List.map_cons] at nobody ⊢
      rw [nobody]
  · intro s member
    rcases List.mem_append.1 member with old | new
    · simpa [linedAt] using h.line s old
    · rw [List.mem_singleton.1 new]
      simp only [linedAt, Slot.start, List.filter_cons, Bool.and_false,
        Bool.false_eq_true, if_false] at noLine ⊢
      rw [noLine]

section Keys

variable [DecidableEq κ]

theorem enter_of_some {key : κ} (found : t.prune.slotOf? key = some s) (ticket : Ticket)
    : t.enter key ticket = (s.number, t.prune.change s.number fun s => s.enter ticket) := by
  simp only [enter, found]

theorem enter_of_none {key : κ} (found : t.prune.slotOf? key = none) (ticket : Ticket)
    : t.enter key ticket
      = (t.prune.made, {
          t.prune with
          slots := t.prune.slots ++ [Slot.start t.prune.made key ticket],
          made := t.prune.made + 1
        }) := by
  simp only [enter, found, Slot.start]

/-- A user enters the slot of a key, or a new one if the key has none. -/
theorem Accounts.enter (h : t.Accounts uses) (key : κ) (ticket : Ticket)
    : (t.enter key ticket).2.Accounts
        (⟨key, (t.enter key ticket).1, ticket, false⟩ :: uses) := by
  cases found : t.prune.slotOf? key with
  | some s =>
      have stored : s ∈ t.prune.slots := List.mem_of_find?_eq_some found
      have keyed : s.key = key := by simpa using List.find?_some found
      rw [enter_of_some found, ← keyed]
      exact h.prune.enterSlot stored ticket
  | none =>
      rw [enter_of_none found]
      refine h.prune.addSlot ?_ ticket
      simpa [slotOf?, List.find?_eq_none] using found

end Keys

-----------------------------------------------------------------------------------------
-- Holding a lock
-----------------------------------------------------------------------------------------

/-- The slot of a number is found under it. -/
theorem Accounts.slot?_of_mem (h : t.Accounts uses) (member : s ∈ t.slots)
    : t.slot? s.number = some s :=
  find?_of_nodup h.numbers member

/-- A lock is held by whoever is first in the line of its slot. -/
theorem Accounts.holds_iff (h : t.Accounts uses) {number : Nat} {ticket : Ticket}
    : t.holds number ticket = true
      ↔ ∃ s ∈ t.slots, s.number = number ∧ s.line.head? = some ticket := by
  rw [holds, Option.any_eq_true]
  constructor
  · rintro ⟨s, found, first⟩
    exact ⟨s, List.mem_of_find?_eq_some found, by simpa using List.find?_some found,
      by simpa [Slot.holder?] using first⟩
  · rintro ⟨s, member, rfl, first⟩
    exact ⟨s, h.slot?_of_mem member, by simpa [Slot.holder?] using first⟩

/-- A change of one slot leaves a holder in place if the slot keeps them first in line. -/
theorem Accounts.holds_change (h : t.Accounts uses) {number at_number : Nat}
    {ticket : Ticket} {f : Slot κ → Slot κ} (sameNumber : ∀ s, (f s).number = s.number)
    (h' : (t.change number f).Accounts uses')
    (first : ∀ s ∈ t.slots, s.line.head? = some ticket
      → (f s).line.head? = some ticket)
    (held : t.holds at_number ticket = true)
    : (t.change number f).holds at_number ticket = true := by
  obtain ⟨s, member, rfl, line⟩ := h.holds_iff.1 held
  refine h'.holds_iff.2 ⟨_, List.mem_map.2 ⟨s, member, rfl⟩, ?_, ?_⟩
  · split
    · exact sameNumber s
    · rfl
  · split
    · exact first s member line
    · exact line

/-- Pruning leaves every holder in place, since a slot with a line is in use. -/
theorem Accounts.holds_prune (h : t.Accounts uses) {number : Nat} {ticket : Ticket}
    (held : t.holds number ticket = true)
    : t.prune.holds number ticket = true := by
  obtain ⟨s, member, rfl, line⟩ := h.holds_iff.1 held
  refine h.prune.holds_iff.2 ⟨s, ?_, rfl, line⟩
  unfold LockTable.prune
  split
  · refine List.mem_filter.2 ⟨member, ?_⟩
    have lined : ticket ∈ s.line := List.mem_of_head? line
    have user : ticket ∈ s.users :=
      (h.users s member).mem_iff.2
        (mem_usersAt_of_linedAt ((h.line s member).mem_iff.1 lined))
    simpa [Slot.inUse] using List.ne_nil_of_mem user
  · exact member

/-- Whoever joins a line leaves the holders in place. -/
theorem Accounts.holds_join {key : κ} {number at_number : Nat} {ticket other : Ticket}
    (h : t.Accounts (⟨key, number, ticket, false⟩ :: uses))
    (held : t.holds at_number other = true)
    : (t.join number ticket).holds at_number other = true := by
  refine h.holds_change (fun _ => rfl) h.join (fun s _ first => ?_) held
  simp [Slot.join, List.head?_append, first]

/-- Whoever leaves leaves the other holders in place. -/
theorem Accounts.holds_leave {u : SlotUse κ} (h : t.Accounts (u :: uses))
    (distinct : u.ticket ∉ uses.map SlotUse.ticket) {at_number : Nat} {other : Ticket}
    (differs : other ≠ u.ticket) (held : t.holds at_number other = true)
    : (t.leave u.number u.ticket).holds at_number other = true := by
  refine h.holds_change (fun _ => rfl) (h.leave distinct) (fun s _ first => ?_) held
  obtain ⟨rest, line⟩ := List.head?_eq_some_iff.1 first
  simp [Slot.leave, line, differs]

/-- The lock of a key has one holder: two holders would be first in the line of the same
slot.
-/
theorem Accounts.holds_unique (h : t.Accounts uses) {u u' : SlotUse κ} (member : u ∈ uses)
    (member' : u' ∈ uses) (same : u.key = u'.key)
    (held : t.holds u.number u.ticket = true) (held' : t.holds u'.number u'.ticket = true)
    : u.ticket = u'.ticket := by
  obtain ⟨s, stored, number, key⟩ := h.placed u member
  obtain ⟨s', stored', number', key'⟩ := h.placed u' member'
  have one : s = s' :=
    List.inj_on_of_nodup_map h.keys stored stored' (key.trans (same.trans key'.symm))
  subst one
  obtain ⟨r, placed, atNumber, line⟩ := h.holds_iff.1 held
  obtain ⟨r', placed', atNumber', line'⟩ := h.holds_iff.1 held'
  have slots : r = r' :=
    List.inj_on_of_nodup_map h.numbers placed placed'
      (atNumber.trans (number.symm.trans (number'.trans atNumber'.symm)))
  subst slots
  exact Option.some.inj (line.symm.trans line')

/-- Whoever is alone in line for a key holds its lock. -/
theorem Accounts.holds_alone {u : SlotUse κ} (h : t.Accounts (u :: uses))
    (joined : u.joined = true) (alone : ∀ other ∈ uses, other.key ≠ u.key)
    : t.holds u.number u.ticket = true := by
  obtain ⟨s, stored, number, key⟩ := h.placed u List.mem_cons_self
  refine h.holds_iff.2 ⟨s, stored, number, ?_⟩
  have elsewhere : linedAt uses u.number = [] := by
    refine List.map_eq_nil_iff.2 (List.filter_eq_nil_iff.2 fun other member test => ?_)
    obtain ⟨r, placed, atNumber, ofKey⟩ := h.placed other (List.mem_cons_of_mem _ member)
    simp only [Bool.and_eq_true, beq_iff_eq] at test
    have same : r = s :=
      List.inj_on_of_nodup_map h.numbers placed stored
        (atNumber.trans (test.1.trans number.symm))
    exact alone other member (ofKey.symm.trans (same ▸ key))
  have line := h.line s stored
  have counted : linedAt (u :: uses) s.number = u.ticket :: linedAt uses u.number := by
    simp [linedAt, number, joined]
  rw [counted, elsewhere, List.perm_singleton] at line
  rw [line]
  rfl

/-- Whoever is in line for a key waits for a holder of its lock: someone is first in line.
-/
theorem Accounts.exists_holder (h : t.Accounts uses) {u : SlotUse κ} (member : u ∈ uses)
    (joined : u.joined = true)
    : ∃ holder ∈ uses, holder.key = u.key ∧ t.holds holder.number holder.ticket = true := by
  obtain ⟨s, stored, number, key⟩ := h.placed u member
  have lined : u.ticket ∈ s.line := by
    rw [(h.line s stored).mem_iff, number]
    exact List.mem_map.2 ⟨u, List.mem_filter.2 ⟨member, by simp [joined]⟩, rfl⟩
  obtain ⟨first, rest, line⟩ := List.exists_cons_of_ne_nil (List.ne_nil_of_mem lined)
  have counted : first ∈ linedAt uses s.number := by
    rw [← (h.line s stored).mem_iff, line]
    exact List.mem_cons_self
  obtain ⟨holder, used, rfl⟩ := List.mem_map.1 counted
  obtain ⟨inUses, test⟩ := List.mem_filter.1 used
  simp only [Bool.and_eq_true, beq_iff_eq] at test
  obtain ⟨r, placed, atNumber, ofKey⟩ := h.placed holder inUses
  have same : r = s :=
    List.inj_on_of_nodup_map h.numbers placed stored (atNumber.trans test.1)
  subst same
  refine ⟨holder, inUses, ofKey.symm.trans key, h.holds_iff.2 ⟨r, stored, test.1.symm, ?_⟩⟩
  rw [line]
  rfl

/-- A table that nobody uses has neither users nor lines. -/
theorem Accounts.free (h : t.Accounts []) (stored : s ∈ t.slots)
    : s.users = [] ∧ s.line = [] :=
  ⟨List.perm_nil.1 (h.users s stored), List.perm_nil.1 (h.line s stored)⟩

-----------------------------------------------------------------------------------------
-- The slots of different keys
-----------------------------------------------------------------------------------------

/-- Uses of different keys are uses of different slots. -/
theorem Accounts.number_ne (h : t.Accounts uses) {u u' : SlotUse κ} (member : u ∈ uses)
    (member' : u' ∈ uses) (differs : u.key ≠ u'.key)
    : u.number ≠ u'.number := by
  intro same
  obtain ⟨s, stored, number, key⟩ := h.placed u member
  obtain ⟨s', stored', number', key'⟩ := h.placed u' member'
  have one : s = s' :=
    List.inj_on_of_nodup_map h.numbers stored stored'
      (number.trans (same.trans number'.symm))
  subst one
  exact differs (key.symm.trans key')

/-- The slot of a number is found as before when the slot of another number is changed. -/
theorem slot?_change_other {number other : Nat} {f : Slot κ → Slot κ}
    (sameNumber : ∀ s, (f s).number = s.number) (differs : other ≠ number)
    : (t.change number f).slot? other = t.slot? other := by
  have tests : ((fun s : Slot κ => s.number == other)
        ∘ fun s => if s.number = number then f s else s)
      = fun s => s.number == other := by
    funext s
    simp only [Function.comp]
    split
    · rw [sameNumber]
    · rfl
  rw [slot?, change, List.find?_map, tests]
  cases found : t.slots.find? fun s => s.number == other with
  | none => simp [slot?, found]
  | some s =>
      have number : s.number = other := by simpa using List.find?_some found
      simp [slot?, found, number, differs]

/-- Pruning drops no slot that is in use. -/
theorem Accounts.slot?_prune (h : t.Accounts uses) {u : SlotUse κ} (member : u ∈ uses)
    : t.prune.slot? u.number = t.slot? u.number := by
  obtain ⟨s, stored, number, -⟩ := h.placed u member
  obtain ⟨r, kept, number', -⟩ := h.prune.placed u member
  have old : r ∈ t.slots := by
    unfold LockTable.prune at kept
    split at kept
    · exact (List.mem_filter.1 kept).1
    · exact kept
  have same : r = s :=
    List.inj_on_of_nodup_map h.numbers old stored (number'.trans number.symm)
  subst same
  rw [← number, h.prune.slot?_of_mem kept, h.slot?_of_mem stored]

/-- Whether a key is held does not depend on what happens to the slot of another key. -/
theorem Accounts.holds_change_other (h : t.Accounts uses) {u u' : SlotUse κ}
    (member : u ∈ uses) (member' : u' ∈ uses) (differs : u.key ≠ u'.key)
    {f : Slot κ → Slot κ} (sameNumber : ∀ s, (f s).number = s.number)
    : (t.change u'.number f).holds u.number u.ticket = t.holds u.number u.ticket := by
  rw [holds, slot?_change_other sameNumber (h.number_ne member member' differs), holds]

section Keys

variable [DecidableEq κ]

/-- The slot that is stored for a key is the one that its users use. -/
theorem Accounts.slotOf?_eq (h : t.Accounts uses) {u : SlotUse κ} (member : u ∈ uses)
    : ∃ s, t.slotOf? u.key = some s ∧ s.number = u.number := by
  obtain ⟨s, stored, number, key⟩ := h.placed u member
  have found : t.slotOf? s.key = some s := find?_of_nodup h.keys stored
  rw [key] at found
  exact ⟨s, found, number⟩

/-- Whether a key is held does not depend on who enters the slot of another key. -/
theorem Accounts.holds_enter_other (h : t.Accounts uses) {u : SlotUse κ} (member : u ∈ uses)
    {key : κ} (differs : u.key ≠ key) (ticket : Ticket)
    : (t.enter key ticket).2.holds u.number u.ticket = t.holds u.number u.ticket := by
  have pruned := h.slot?_prune member
  cases found : t.prune.slotOf? key with
  | some s =>
      have stored : s ∈ t.prune.slots := List.mem_of_find?_eq_some found
      have keyed : s.key = key := by simpa using List.find?_some found
      obtain ⟨r, placed, number, ofKey⟩ := h.prune.placed u member
      have other : u.number ≠ s.number := by
        intro same
        have one : r = s :=
          List.inj_on_of_nodup_map h.prune.numbers placed stored (number.trans same)
        subst one
        exact differs (ofKey.symm.trans keyed)
      have unchanged : (t.prune.change s.number fun s => s.enter ticket).slot? u.number
          = t.prune.slot? u.number :=
        slot?_change_other (fun _ => rfl) other
      rw [enter_of_some found, holds, unchanged, pruned, holds]
  | none =>
      obtain ⟨r, placed, number, -⟩ := h.prune.placed u member
      have found' := h.prune.slot?_of_mem placed
      rw [number, slot?] at found'
      rw [enter_of_none found, holds, holds, ← pruned, slot?, slot?, List.find?_append,
        found']
      rfl

/-- Whoever enters leaves the holders in place. -/
theorem Accounts.holds_enter (h : t.Accounts uses) (key : κ) (ticket : Ticket)
    {at_number : Nat} {other : Ticket} (held : t.holds at_number other = true)
    : (t.enter key ticket).2.holds at_number other = true := by
  have held := h.holds_prune held
  have entered := h.enter key ticket
  cases found : t.prune.slotOf? key with
  | some s =>
      rw [enter_of_some found] at entered ⊢
      exact h.prune.holds_change (fun _ => rfl) entered (fun _ _ first => first) held
  | none =>
      rw [enter_of_none found] at entered ⊢
      obtain ⟨s, member, number, line⟩ := h.prune.holds_iff.1 held
      exact entered.holds_iff.2 ⟨s, List.mem_append_left _ member, number, line⟩

end Keys

end LockTable

end DebtMarket
