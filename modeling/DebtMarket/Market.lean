import DebtMarket.Operation
import DebtMarket.Publisher

/-! The market at work. A market answers the calls of an operation from its clock, its
store and its source of identifiers, and runs an operation until it ends or has to wait
for a lock. A task that waits keeps the locks it holds; it goes on when it has come first
in line.
-/

namespace DebtMarket

/-- All that an operation may see or change. -/
structure Market where
  clock : Instant
  store : Store
  locks : Locks
  publisher : Publisher
  /-- The identifiers of each kind, in the order in which they are drawn. -/
  source : IdKind → Nat → Uuid
  /-- How many identifiers of each kind were drawn. -/
  drawn : IdKind → Nat

/-- An operation that waits for a lock. -/
structure Waiting (α : Type) where
  /-- The locks that it holds meanwhile, last taken first. -/
  held : List Guard
  wanted : Guard
  rest : Operation α

/-- How far an operation got. -/
inductive Progress (α : Type) where
  | finished (result : Except Failure α) (held : List Guard)
  | waiting (task : Waiting α)

namespace Market

/-- A market without records. -/
def start (clock : Instant) (threshold : Nat) (outlet : Outlet)
    (source : IdKind → Nat → Uuid)
    : Market :=
  {
    clock,
    store := Store.empty,
    locks := Locks.empty threshold,
    publisher := Publisher.start outlet,
    source,
    drawn := fun _ => 0
  }

/-- The next identifier of a kind. -/
def draw (m : Market) (kind : IdKind) : Id kind × Market :=
  (
    ⟨m.source kind (m.drawn kind)⟩,
    {
      m with
      drawn := fun other => if other = kind then m.drawn other + 1 else m.drawn other
    }
  )

/-- The market after a change was made known. -/
def publish (m : Market) (happening : Happening) (time : Instant) : Market :=
  let (id, m) := m.draw .event
  { m with publisher := m.publisher.publish ⟨id, time, happening⟩ }

/-- The answer to a write, and the market with what the write left of the store. -/
def write (m : Market) (w : Write) : Except StoreError Unit × Market :=
  let (answer, store) := (Store.writing w).tried m.store
  (answer, { m with store })

/-- The reply to a call. -/
def answer (m : Market) : (c : Call) → c.Reply × Market
  | .now => (m.clock, m)
  | .draw kind => m.draw kind
  | .query q => (m.store.answer q, m)
  | .write w => m.write w
  | .publish happening time => ((), m.publish happening time)

/-- The market after a lock was given up, or is no longer waited for. -/
def leave (m : Market) (guard : Guard) : Market :=
  { m with locks := m.locks.leave guard }

/-- The market with one more user in line for a lock. -/
def claim (m : Market) (scope : Scope) : Guard × Market :=
  let (guard, locks) := m.locks.enter scope
  (guard, { m with locks := locks.join guard })

variable {α : Type}

/-- An operation run until it ends or has to wait, by a task that holds some locks. -/
def run : Operation α → List Guard → Market → Progress α × Market
  | .done a, held, m => (.finished (.ok a) held, m)
  | .fail failure, held, m => (.finished (.error failure) held, m)
  | .call c next, held, m =>
      let (reply, m) := m.answer c
      run (next reply) held m
  | .lock scope next, held, m =>
      let (guard, m) := m.claim scope
      if m.locks.holds guard then run next (guard :: held) m
      else (.waiting { held, wanted := guard, rest := next }, m)
  | .unlock next, guard :: held, m => run next held (m.leave guard)
  | .unlock next, [], m => run next [] m

/-- An operation begun by a new task. -/
def begin (m : Market) (p : Operation α) : Progress α × Market :=
  run p [] m

/-- A waiting task that goes on if its turn has come. -/
def resume (m : Market) (task : Waiting α) : Progress α × Market :=
  if m.locks.holds task.wanted then run task.rest (task.wanted :: task.held) m
  else (.waiting task, m)

/-- The market without a task: it holds no lock and waits for none any more. -/
def abandon (m : Market) (task : Waiting α) : Market :=
  (task.wanted :: task.held).foldl leave m

/-- The market with its clock set. -/
def setClock (m : Market) (now : Instant) : Market :=
  { m with clock := now }

/-- The market with its clock moved on; the clock stays where it is rather than leave its
range.
-/
def advance (m : Market) (seconds : Int) : Market :=
  m.setClock (m.clock.addSeconds seconds)

end Market

end DebtMarket
