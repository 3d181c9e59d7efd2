/-! Tables of locks, one lock for each key. A user of a lock first enters its slot and
then joins the line of the slot; whoever is first in line holds the lock, so a lock that
is given up passes to the longest waiter at once. When a table has reached its threshold,
slots without users are dropped before a key is entered.
-/

namespace DebtMarket

/-- The number of one acquisition of a lock. -/
abbrev Ticket :=
  Nat

/-- The lock of a key, with those who use it and those who hold it or wait for it in line.
-/
structure Slot (κ : Type) where
  number : Nat
  key : κ
  users : List Ticket
  line : List Ticket
deriving DecidableEq, Repr

namespace Slot

variable {κ : Type}

/-- A new slot with its first user. -/
def start (number : Nat) (key : κ) (ticket : Ticket) : Slot κ :=
  { number, key, users := [ticket], line := [] }

/-- Whether anyone uses the slot. -/
def inUse (s : Slot κ) : Bool :=
  !s.users.isEmpty

/-- The slot with one more user. -/
def enter (s : Slot κ) (ticket : Ticket) : Slot κ :=
  { s with users := s.users ++ [ticket] }

/-- The slot with a user at the end of its line. -/
def join (s : Slot κ) (ticket : Ticket) : Slot κ :=
  { s with line := s.line ++ [ticket] }

/-- The slot without a user, who leaves the line too. -/
def leave (s : Slot κ) (ticket : Ticket) : Slot κ :=
  { s with users := s.users.erase ticket, line := s.line.erase ticket }

/-- Who holds the lock: the first in line. -/
def holder? (s : Slot κ) : Option Ticket :=
  s.line.head?

end Slot

/-- The slots of all keys that are tracked. -/
structure LockTable (κ : Type) where
  threshold : Nat
  slots : List (Slot κ)
  /-- How many slots were made so far; it numbers the next one. -/
  made : Nat
deriving DecidableEq, Repr

namespace LockTable

variable {κ : Type}

/-- A table without slots; a threshold of zero counts as one. -/
def empty (threshold : Nat) : LockTable κ :=
  { threshold := max threshold 1, slots := [], made := 0 }

/-- The number of tracked keys. -/
def size (t : LockTable κ) : Nat :=
  t.slots.length

/-- The table without unused slots, if it has reached its threshold. -/
def prune (t : LockTable κ) : LockTable κ :=
  if t.threshold ≤ t.size then { t with slots := t.slots.filter Slot.inUse } else t

/-- The table with a slot changed. -/
def change (t : LockTable κ) (number : Nat) (f : Slot κ → Slot κ) : LockTable κ :=
  { t with slots := t.slots.map fun s => if s.number = number then f s else s }

/-- The slot of a number. -/
def slot? (t : LockTable κ) (number : Nat) : Option (Slot κ) :=
  t.slots.find? fun s => s.number == number

variable [DecidableEq κ]

/-- The slot of a key. -/
def slotOf? (t : LockTable κ) (key : κ) : Option (Slot κ) :=
  t.slots.find? fun s => s.key == key

/-- The table after pruning with a user in the slot of a key, and the number of that slot.
-/
def enter (t : LockTable κ) (key : κ) (ticket : Ticket) : Nat × LockTable κ :=
  let t := t.prune
  match t.slotOf? key with
  | some s => (s.number, t.change s.number fun s => s.enter ticket)
  | none =>
      let s := Slot.start t.made key ticket
      (s.number, { t with slots := t.slots ++ [s], made := t.made + 1 })

/-- The table with a user of a slot in line for its lock. -/
def join (t : LockTable κ) (number : Nat) (ticket : Ticket) : LockTable κ :=
  t.change number fun s => s.join ticket

/-- The table without a user of a slot. -/
def leave (t : LockTable κ) (number : Nat) (ticket : Ticket) : LockTable κ :=
  t.change number fun s => s.leave ticket

/-- Whether a user holds the lock of a slot. -/
def holds (t : LockTable κ) (number : Nat) (ticket : Ticket) : Bool :=
  (t.slot? number).any fun s => s.holder? == some ticket

end LockTable

end DebtMarket
