import DebtMarket.Proofs.Operation.Discipline

/-! Tidy operations. An operation is tidy if it locks scopes in their order, gives up only
what it has locked, and has given up everything whenever it ends, with whatever result and
whatever it is answered. Operations that keep the discipline are tidy, and so is one tidy
operation after another; hence every command is.
-/

namespace DebtMarket

namespace Operation

variable {α β : Type}

/-- An operation that is tidy while it keeps some scopes locked, last taken first. -/
inductive Tidy : List Scope → Operation α → Prop
  | done (a : α) : Tidy [] (done a)
  | fail (failure : Failure) : Tidy [] (fail failure)
  | call {held c next} (rest : ∀ reply, Tidy held (next reply)) : Tidy held (call c next)
  | lock {held scope next} (fits : scope.Fits held) (rest : Tidy (scope :: held) next)
    : Tidy held (lock scope next)
  | unlock {held scope next} (rest : Tidy held next) : Tidy (scope :: held) (unlock next)

variable {held taken : List Scope} {p : Operation α}

/-- What closes gives up what was taken, by induction on it. -/
theorem Closing.tidy {well : Bool} (h : Closing well taken p) : Tidy taken p := by
  induction h with
  | done a => exact .done a
  | fail failure => exact .fail failure
  | publish _ ih => exact .call fun _ => ih
  | unlock _ ih => exact .unlock ih

/-- An operation that keeps the discipline is tidy, by induction on it. -/
theorem Orderly.tidy {d : Drawn} (h : Orderly [] taken d p) : Tidy taken p := by
  induction h with
  | close closing => exact closing.tidy
  | now _ _ ih => exact .call ih
  | draw _ _ _ ih => exact .call ih
  | query _ ih => exact .call ih
  | write refused accepted =>
      refine .call fun reply => ?_
      cases reply with
      | error e => exact (refused e).tidy
      | ok u => exact accepted.tidy
  | lock fits _ ih =>
      rw [List.append_nil] at fits
      exact .lock fits ih

/-- A tidy operation may be followed by tidy ones, as nothing is locked in between: by
induction on it.
-/
theorem Tidy.bind (h : Tidy held p) {f : α → Operation β} (hf : ∀ a, Tidy [] (f a))
    : Tidy held (p.bind f) := by
  induction h with
  | done a => exact hf a
  | fail failure => exact .fail failure
  | call _ ih => exact .call ih
  | lock fits _ ih => exact .lock fits ih
  | unlock _ ih => exact .unlock ih

-----------------------------------------------------------------------------------------
-- What the next step of a tidy operation tells about it
-----------------------------------------------------------------------------------------

theorem Tidy.of_done {a : α} (h : Tidy held (Operation.done a)) : held = [] := by
  cases h
  rfl

theorem Tidy.of_fail {failure : Failure}
    (h : Tidy held (Operation.fail failure : Operation α))
    : held = [] := by
  cases h
  rfl

theorem Tidy.of_call {c : Call} {next : c.Reply → Operation α}
    (h : Tidy held (Operation.call c next)) (reply : c.Reply)
    : Tidy held (next reply) := by
  cases h with
  | call rest => exact rest reply

theorem Tidy.of_lock {scope : Scope} {next : Operation α}
    (h : Tidy held (Operation.lock scope next))
    : scope.Fits held ∧ Tidy (scope :: held) next := by
  cases h with
  | lock fits rest => exact ⟨fits, rest⟩

theorem Tidy.of_unlock {next : Operation α} (h : Tidy held (Operation.unlock next))
    : ∃ scope rest, held = scope :: rest ∧ Tidy rest next := by
  cases h with
  | unlock rest => exact ⟨_, _, rfl, rest⟩

end Operation

/-- Every request begins with a tidy operation. -/
theorem Command.tidy_opening (c : Command) : Operation.Tidy [] c.opening.operation :=
  c.orderly_opening.tidy

/-- Every command is carried out by a tidy operation, its sequel included. -/
theorem Command.tidy_operation (c : Command) : Operation.Tidy [] c.operation := by
  rw [c.operation_eq]
  refine c.tidy_opening.bind fun outcome => ?_
  cases sequel : c.sequel? outcome with
  | none => exact .done outcome
  | some next =>
      obtain ⟨id, target, actor, t, -, -, -, rfl⟩ := sequel?_eq_some sequel
      exact (Operation.Tidy.bind (recordIssuance _ _).tidy_opening) fun _ => .done outcome

end DebtMarket
