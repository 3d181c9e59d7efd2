/-! Bounded channels. A channel hands items on in the order in which it took them. It
refuses an item while it is full, and every item once its receiving end is closed.
-/

namespace DebtMarket

/-- Why a channel refuses an item. -/
inductive Refusal where
  | full
  | closed
deriving DecidableEq, Repr

namespace Refusal

/-- The message of a refusal. -/
def message : Refusal → String
  | full => "event channel is full"
  | closed => "event channel is closed"

end Refusal

/-- A queue of at most `capacity` items, with a receiving end that may be closed. -/
structure Channel (α : Type) where
  capacity : Nat
  queue : List α
  isOpen : Bool
deriving DecidableEq, Repr

namespace Channel

variable {α : Type}

/-- An open channel without items; a capacity of zero counts as one. -/
def empty (capacity : Nat) : Channel α :=
  { capacity := max capacity 1, queue := [], isOpen := true }

/-- The channel with an item at its end, or why it refuses the item. -/
def send (c : Channel α) (a : α) : Except Refusal (Channel α) :=
  if !c.isOpen then .error .closed
  else if c.capacity ≤ c.queue.length then .error .full
  else .ok { c with queue := c.queue ++ [a] }

/-- The oldest item, if the receiving end is open and there is one, and the channel
without it.
-/
def receive (c : Channel α) : Option α × Channel α :=
  match c.isOpen, c.queue with
  | true, a :: rest => (some a, { c with queue := rest })
  | _, _ => (none, c)

/-- The channel with its receiving end closed; its items are lost. -/
def close (c : Channel α) : Channel α :=
  { c with queue := [], isOpen := false }

end Channel

end DebtMarket
