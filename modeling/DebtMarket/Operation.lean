import DebtMarket.Event
import DebtMarket.Lock
import DebtMarket.Policy
import DebtMarket.Store.Access

/-! Operations: what has to be done to answer a request, as a tree of single steps that
ends in a result or a failure. Each step asks the market for one thing, takes a lock or
gives up the lock taken last; the market may do other work between any two steps. An
operation that changes a record checks and writes while the record is locked, gives the
lock up however that ends, and only then makes the change known.
-/

namespace DebtMarket

/-- What an operation asks of the market in one step. -/
inductive Call where
  /-- The time on the clock. -/
  | now
  /-- An identifier that was never drawn before. -/
  | draw (kind : IdKind)
  | query (q : Query)
  | write (w : Write)
  /-- To make a change known, with its time. -/
  | publish (happening : Happening) (time : Instant)
deriving DecidableEq, Repr

namespace Call

/-- What a call is answered with. -/
@[reducible]
def Reply : Call → Type
  | now => Instant
  | draw kind => Id kind
  | query q => q.Answer
  | write _ => Except StoreError Unit
  | publish .. => Unit

end Call

/-- A tree of steps that ends in a result or a failure. -/
inductive Operation (α : Type) where
  | done (result : α)
  | fail (failure : Failure)
  | call (c : Call) (next : c.Reply → Operation α)
  | lock (scope : Scope) (next : Operation α)
  /-- Gives up the lock that was taken last. -/
  | unlock (next : Operation α)

/-- What came of a change: its result, and what to make known, if anything changed. -/
structure Change (α : Type) where
  result : α
  notice : Option (Happening × Instant)

namespace Change

variable {α : Type}

/-- Nothing to make known. -/
def silent (result : α) : Change α :=
  ⟨result, none⟩

/-- A change to make known. -/
def of (result : α) (happening : Happening) (time : Instant) : Change α :=
  ⟨result, some (happening, time)⟩

end Change

namespace Operation

variable {α β : Type}

/-- The operation that goes on from the result of another one. -/
def bind (p : Operation α) (f : α → Operation β) : Operation β :=
  match p with
  | done a => f a
  | fail failure => fail failure
  | call c next => call c fun reply => (next reply).bind f
  | lock scope next => lock scope (next.bind f)
  | unlock next => unlock (next.bind f)

instance : Monad Operation where
  pure := done
  bind := bind

/-- The time on the clock. -/
def now : Operation Instant :=
  call .now done

/-- A new identifier. -/
def draw (kind : IdKind) : Operation (Id kind) :=
  call (.draw kind) done

/-- The answer of the store to a query. -/
def query (q : Query) : Operation q.Answer :=
  call (.query q) done

/-- A write to the store, whose refusal makes the operation fail. -/
def save (w : Write) : Operation Unit :=
  call (.write w) fun
    | .ok () => done ()
    | .error e => fail (.store e)

/-- A change made known. -/
def publish (happening : Happening) (time : Instant) : Operation Unit :=
  call (.publish happening time) done

/-- The operation that fails by a rule of the market. -/
def refuse (e : MarketError) : Operation α :=
  fail (.market e)

/-- The outcome of a rule of the market. -/
def check : Except MarketError α → Operation α
  | .ok a => done a
  | .error e => refuse e

/-- An operation that gives up one more lock at its end, be it a result or a failure. -/
def releasing (p : Operation α) : Operation α :=
  match p with
  | done a => unlock (done a)
  | fail failure => unlock (fail failure)
  | call c next => call c fun reply => (next reply).releasing
  | lock scope next => lock scope next.releasing
  | unlock next => unlock next.releasing

/-- An operation run while a scope is locked. -/
def locking (scope : Scope) (body : Operation α) : Operation α :=
  lock scope body.releasing

/-- The result of a change, after it was made known. -/
def announce (change : Change α) : Operation α := do
  if let some (happening, time) := change.notice then
    publish happening time
  return change.result

/-- A change checked and written while a scope is locked, and made known afterwards. -/
def changing (scope : Scope) (body : Operation (Change α)) : Operation α := do
  announce (← locking scope body)

end Operation

end DebtMarket
