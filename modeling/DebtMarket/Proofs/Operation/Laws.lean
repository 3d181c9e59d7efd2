import Mathlib.Data.List.Nodup
import DebtMarket.Command

/-! The laws of operations. Operations form a lawful monad, and an operation that begins
with a single step is that step followed by the rest. Proofs about operations go through
these equations and open no operation by its constructors.
-/

namespace DebtMarket

namespace Operation

variable {α β γ : Type}

/-- An operation that goes on by ending with its result is itself, by induction on it. -/
theorem bind_done (p : Operation α) : p.bind done = p := by
  induction p with
  | done a => rfl
  | fail failure => rfl
  | call c next ih => exact congrArg (call c) (funext ih)
  | lock scope next ih => exact congrArg (lock scope) ih
  | unlock next ih => exact congrArg unlock ih

/-- Going on twice is going on with what goes on, by induction on the first operation. -/
theorem bind_bind (p : Operation α) (f : α → Operation β) (g : β → Operation γ)
    : (p.bind f).bind g = p.bind fun a => (f a).bind g := by
  induction p with
  | done a => rfl
  | fail failure => rfl
  | call c next ih => exact congrArg (call c) (funext ih)
  | lock scope next ih => exact congrArg (lock scope) ih
  | unlock next ih => exact congrArg unlock ih

/-- Operations are a lawful monad. -/
instance : LawfulMonad Operation :=
  LawfulMonad.mk' Operation bind_done (fun _ _ => rfl) bind_bind

-----------------------------------------------------------------------------------------
-- Operations that begin with a single step
-----------------------------------------------------------------------------------------

theorem map_eq (f : α → β) (p : Operation α) : f <$> p = p.bind fun a => done (f a) :=
  rfl

theorem now_bind (k : Instant → Operation α) : now >>= k = call .now k :=
  rfl

theorem draw_bind (kind : IdKind) (k : Id kind → Operation α)
    : draw kind >>= k = call (.draw kind) k :=
  rfl

theorem query_bind (q : Query) (k : q.Answer → Operation α)
    : query q >>= k = call (.query q) k :=
  rfl

/-- A write goes on if it is accepted and fails if it is refused. -/
theorem save_bind (w : Write) (k : Unit → Operation α)
    : save w >>= k
      = call (.write w) fun
          | .ok () => k ()
          | .error e => fail (.store e) := by
  refine congrArg (call (.write w)) (funext fun reply => ?_)
  cases reply <;> rfl

/-- A result that is not used leaves only what the operation does. -/
theorem discard_bind (p : Operation α) (k : PUnit → Operation β)
    : discard p >>= k = p >>= fun _ => k ⟨⟩ :=
  bind_bind p _ k

/-- What was found, or a refusal. -/
def orRefuse (found : Option α) (e : MarketError) : Operation α :=
  match found with
  | some a => pure a
  | none => refuse e

theorem requireInstrument_eq (id : InstrumentId)
    : requireInstrument id
      = Operation.query (.instrument id)
        >>= fun found => orRefuse found (.notFound .instrument id.uuid) :=
  bind_congr fun found => by cases found <;> rfl

theorem requireListing_eq (id : ListingId)
    : requireListing id
      = Operation.query (.listing id)
        >>= fun found => orRefuse found (.notFound .listing id.uuid) :=
  bind_congr fun found => by cases found <;> rfl

theorem requireBid_eq (id : BidId)
    : requireBid id
      = Operation.query (.bid id)
        >>= fun found => orRefuse found (.notFound .bid id.uuid) :=
  bind_congr fun found => by cases found <;> rfl

theorem requireAsk_eq (id : AskId)
    : requireAsk id
      = Operation.query (.ask id)
        >>= fun found => orRefuse found (.notFound .ask id.uuid) :=
  bind_congr fun found => by cases found <;> rfl

/-- A change under a lock is made known after the lock was given up. -/
theorem changing_eq (scope : Scope) (body : Operation (Change α))
    : changing scope body = lock scope (body.releasing.bind announce) :=
  rfl

/-- An instrument that became active is issued, and the answer is that of the move. -/
theorem transitionInstrument_eq (id : InstrumentId) (target : InstrumentStatus)
    (actor : Actor)
    : transitionInstrument id target actor
      = (moveInstrument id target actor).bind fun t =>
          if t.activated then
            (recordIssuance id t.instrument.issuer).bind fun _ => done t
          else done t := by
  refine congrArg (Operation.bind _) (funext fun t => ?_)
  split
  · exact bind_bind _ _ _
  · rfl

end Operation

-----------------------------------------------------------------------------------------
-- Requests that take two commands
-----------------------------------------------------------------------------------------

namespace Command

/-- The command that a request begins with. -/
def opening : Command → Command
  | transitionInstrument id target actor => moveInstrument id target actor
  | c => c

/-- The command that a request goes on with, once its opening came to an outcome: only an
instrument that became active is issued.
-/
def sequel? : Command → Outcome → Option Command
  | transitionInstrument id _ _, .transition t =>
      if t.activated then some (recordIssuance id t.instrument.issuer) else none
  | _, _ => none

/-- A request that goes on is one that made an instrument active. -/
theorem sequel?_eq_some {c next : Command} {outcome : Outcome}
    (h : c.sequel? outcome = some next)
    : ∃ id target actor t, c = transitionInstrument id target actor
        ∧ outcome = .transition t ∧ t.activated = true
        ∧ next = recordIssuance id t.instrument.issuer := by
  cases c with
  | transitionInstrument id target actor =>
      cases outcome with
      | transition t =>
          simp only [sequel?, Option.ite_none_right_eq_some, Option.some.injEq] at h
          exact ⟨id, target, actor, t, rfl, rfl, h.1, h.2.symm⟩
      | _ => cases h
  | _ => cases h

/-- A request is carried out by its opening and its sequel, and comes to the outcome of its
opening, by cases on the request.
-/
theorem operation_eq (c : Command)
    : c.operation
      = c.opening.operation.bind fun outcome =>
          match c.sequel? outcome with
          | some next => next.operation.bind fun _ => .done outcome
          | none => .done outcome := by
  cases c with
  | transitionInstrument id target actor =>
      simp only [operation, opening, Operation.map_eq, Operation.transitionInstrument_eq,
        Operation.bind_bind, Operation.bind]
      refine congrArg (Operation.bind _) (funext fun t => ?_)
      cases h : t.activated with
      | false => simp [sequel?, h, Operation.bind]
      | true => simp [sequel?, h, Operation.bind_bind, Operation.bind]
  | _ => exact (Operation.bind_done _).symm

end Command

end DebtMarket
