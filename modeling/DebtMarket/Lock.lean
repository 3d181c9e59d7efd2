import DebtMarket.Ident
import DebtMarket.Lock.Table

/-! The locks of the market. Checks and writes that belong together happen while the
instrument or the listing that they concern is locked. Instruments and listings have
tables of their own.
-/

namespace DebtMarket

/-- What is locked while a change is checked and written. -/
inductive Scope where
  | instrument (id : InstrumentId)
  | listing (id : ListingId)
deriving DecidableEq, Repr

/-- One acquisition of a lock, from the moment its slot was entered. -/
structure Guard where
  scope : Scope
  slot : Nat
  ticket : Ticket
deriving DecidableEq, Repr

/-- The lock tables of instruments and listings. -/
structure Locks where
  instruments : LockTable InstrumentId
  listings : LockTable ListingId
  /-- The ticket of the next acquisition. -/
  next : Ticket
deriving DecidableEq, Repr

namespace Locks

/-- Tables without slots. -/
def empty (threshold : Nat) : Locks :=
  {
    instruments := LockTable.empty threshold,
    listings := LockTable.empty threshold,
    next := 0
  }

/-- How many tracked keys make a table drop those without users, unless it is told
otherwise.
-/
def defaultThreshold : Nat :=
  1024

/-- The tables with one more user of a scope. -/
def enter (l : Locks) (scope : Scope) : Guard × Locks :=
  match scope with
  | .instrument id =>
      let (slot, table) := l.instruments.enter id l.next
      (⟨scope, slot, l.next⟩, { l with instruments := table, next := l.next + 1 })
  | .listing id =>
      let (slot, table) := l.listings.enter id l.next
      (⟨scope, slot, l.next⟩, { l with listings := table, next := l.next + 1 })

/-- The tables with a user in line for the lock. -/
def join (l : Locks) (guard : Guard) : Locks :=
  match guard.scope with
  | .instrument _ => { l with instruments := l.instruments.join guard.slot guard.ticket }
  | .listing _ => { l with listings := l.listings.join guard.slot guard.ticket }

/-- The tables without a user: the lock is given up, or no longer waited for. -/
def leave (l : Locks) (guard : Guard) : Locks :=
  match guard.scope with
  | .instrument _ => { l with instruments := l.instruments.leave guard.slot guard.ticket }
  | .listing _ => { l with listings := l.listings.leave guard.slot guard.ticket }

/-- Whether a user holds the lock. -/
def holds (l : Locks) (guard : Guard) : Bool :=
  match guard.scope with
  | .instrument _ => l.instruments.holds guard.slot guard.ticket
  | .listing _ => l.listings.holds guard.slot guard.ticket

/-- The number of tracked keys in both tables. -/
def trackedKeys (l : Locks) : Nat :=
  l.instruments.size + l.listings.size

end Locks

end DebtMarket
