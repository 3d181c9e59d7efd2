import DebtMarket.Proofs.Floor.Locking
import DebtMarket.Proofs.Lock.Lines
import DebtMarket.Proofs.Operation.Tidy

/-! Operations that only read. An operation may ask for records, and lock scopes while it does,
and come to an end without any change. Such an operation never waits where nobody is in line,
and it leaves the store and the publisher of the market as they are.
-/

namespace DebtMarket

namespace Operation

variable {α β : Type} {s : Store} {scope : Scope} {scopes more : List Scope}

/-- An operation locks a scope before any other, and before it does anything but ask. -/
inductive Seeks (s : Store) (scope : Scope) : Operation α → Prop
  | lock {next} : Seeks s scope (lock scope next)
  | query {q next} (rest : Seeks s scope (next (s.answer q)))
    : Seeks s scope (call (.query q) next)

theorem Seeks.bind {p : Operation α} (h : Seeks s scope p) (f : α → Operation β)
    : Seeks s scope (p.bind f) := by
  induction h with
  | lock => exact .lock
  | query _ ih => exact .query ih

/-- An operation comes to an end by asking only, as the store answers it. The scopes that it
locks are counted in their order.
-/
inductive Quiet (s : Store) : List Scope → Operation α → Except Failure α → Prop
  | done (a : α) : Quiet s [] (done a) (.ok a)
  | fail (failure : Failure) : Quiet s [] (fail failure) (.error failure)
  | query {scopes q next result} (rest : Quiet s scopes (next (s.answer q)) result)
    : Quiet s scopes (call (.query q) next) result
  | lock {scope scopes next result} (rest : Quiet s scopes next result)
    : Quiet s (scope :: scopes) (lock scope next) result
  | unlock {scopes next result} (rest : Quiet s scopes next result)
    : Quiet s scopes (unlock next) result

variable {p : Operation α} {result : Except Failure α} {a : α} {failure : Failure}

/-- What goes on quietly from a result is quiet together with it: by induction on the first
operation.
-/
theorem Quiet.bind (h : Quiet s scopes p (.ok a)) {f : α → Operation β}
    {result : Except Failure β} (rest : Quiet s more (f a) result)
    : Quiet s (scopes ++ more) (p.bind f) result := by
  generalize comes : Except.ok a = first at h
  induction h with
  | done a =>
      cases comes
      exact rest
  | fail failure => cases comes
  | query _ ih => exact .query (ih comes)
  | lock _ ih => exact .lock (ih comes)
  | unlock _ ih => exact .unlock (ih comes)

/-- Nothing goes on from a failure. -/
theorem Quiet.bind_fail (h : Quiet s scopes p (.error failure)) (f : α → Operation β)
    : Quiet s scopes (p.bind f) (.error failure) := by
  generalize comes : Except.error failure = first at h
  induction h with
  | done a => cases comes
  | fail failure =>
      cases comes
      exact .fail failure
  | query _ ih => exact .query (ih comes)
  | lock _ ih => exact .lock (ih comes)
  | unlock _ ih => exact .unlock (ih comes)

theorem Quiet.releasing (h : Quiet s scopes p result) : Quiet s scopes p.releasing result := by
  induction h with
  | done a => exact .unlock (.done a)
  | fail failure => exact .unlock (.fail failure)
  | query _ ih => exact .query ih
  | lock _ ih => exact .lock ih
  | unlock _ ih => exact .unlock ih

theorem Quiet.map (h : Quiet s scopes p (.ok a)) (f : α → β)
    : Quiet s scopes (f <$> p) (.ok (f a)) := by
  have mapped := h.bind (f := fun a => Operation.done (f a)) (.done (f a))
  rw [List.append_nil] at mapped
  exact mapped

theorem Quiet.map_fail (h : Quiet s scopes p (.error failure)) (f : α → β)
    : Quiet s scopes (f <$> p) (.error failure) :=
  h.bind_fail _

/-- A change that comes to nothing makes nothing known. -/
theorem Quiet.changing {body : Operation (Change α)} (h : Quiet s scopes body (.ok (.silent a)))
    (scope : Scope)
    : Quiet s (scope :: scopes) (changing scope body) (.ok a) := by
  have announced := h.releasing.bind (f := announce) (.done a)
  rw [List.append_nil] at announced
  exact .lock announced

theorem Quiet.changing_fail {body : Operation (Change α)} (h : Quiet s scopes body (.error failure))
    (scope : Scope)
    : Quiet s (scope :: scopes) (Operation.changing scope body) (.error failure) :=
  .lock (h.releasing.bind_fail _)

end Operation

namespace Market

variable {α : Type} {p : Operation α} {held held' : List Guard} {m m' : Market}
  {claims : List Claim} {result : Except Failure α}

/-- A scope that was locked without waiting had nobody in line. -/
theorem unlined_of_ended {scope : Scope} (h : p.Seeks m.store scope)
    (accounts : m.locks.Accounts claims) (ended : run p held m = (.finished result held', m'))
    : Unlined claims scope := by
  induction h with
  | query _ ih => exact ih ended
  | lock =>
      simp only [run] at ended
      split at ended
      · next holds => exact (accounts.claim_holds_iff scope).1 holds
      · cases ended

/-- A tidy operation that ends has given up what it held, and the claims of all others are as
they were: by induction on it.
-/
theorem run_tidy {scopes : List Scope} (h : Operation.Tidy scopes p)
    (holding : held.map Guard.scope = scopes)
    (accounts : m.locks.Accounts (claimsOf held ++ claims))
    (ended : run p held m = (.finished result held', m'))
    : held' = [] ∧ m'.locks.Accounts claims := by
  induction h generalizing held m with
  | done a =>
      cases List.map_eq_nil_iff.1 holding
      cases ended
      exact ⟨rfl, accounts⟩
  | fail failure =>
      cases List.map_eq_nil_iff.1 holding
      cases ended
      exact ⟨rfl, accounts⟩
  | @call scopes c next _ ih =>
      have unchanged : (m.answer c).2.locks.Accounts (claimsOf held ++ claims) := by
        rw [Task.answer_locks]
        exact accounts
      exact ih (m.answer c).1 holding unchanged ended
  | @lock scopes scope next _ _ ih =>
      simp only [run] at ended
      split at ended
      · refine ih ?_ (accounts.enter scope).join ended
        rw [List.map_cons, holding]
        exact congrArg (· :: scopes) (Locks.enter_scope m.locks scope)
      · cases ended
  | unlock _ ih =>
      obtain ⟨guard, others, rfl, -, holding⟩ := List.map_eq_cons_iff.1 holding
      exact ih (m := m.leave guard) holding accounts.leave ended

/-- A quiet operation ends if nobody is in line for what it locks, and leaves the store and the
publisher as they are: by induction on it.
-/
theorem run_quiet {s : Store} {scopes : List Scope} (h : p.Quiet s scopes result)
    (store : m.store = s) (accounts : m.locks.Accounts (claimsOf held ++ claims))
    (tidy : Operation.Tidy (held.map Guard.scope) p)
    (unlined : ∀ scope ∈ scopes, Unlined claims scope)
    : ∃ m', run p held m = (.finished result [], m') ∧ m'.store = m.store
        ∧ m'.publisher = m.publisher := by
  induction h generalizing held m with
  | done a =>
      cases List.map_eq_nil_iff.1 tidy.of_done
      exact ⟨m, rfl, rfl, rfl⟩
  | fail failure =>
      cases List.map_eq_nil_iff.1 tidy.of_fail
      exact ⟨m, rfl, rfl, rfl⟩
  | @query scopes q next result _ ih =>
      subst store
      exact ih rfl accounts (tidy.of_call (m.store.answer q)) unlined
  | @lock scope scopes next result _ ih =>
      obtain ⟨fits, tidy⟩ := tidy.of_lock
      obtain ⟨here, later⟩ := List.forall_mem_cons.1 unlined
      -- The operation itself has not locked the scope either.
      have free : Unlined (claimsOf held ++ claims) scope := by
        intro c member joined
        rcases List.mem_append.1 member with mine | theirs
        · obtain ⟨guard, holds, rfl⟩ := List.mem_map.1 mine
          exact fun same => fits.not_mem (List.mem_map.2 ⟨guard, holds, same⟩)
        · exact here c theirs joined
      have holds : (m.claim scope).2.locks.holds (m.claim scope).1 = true :=
        (accounts.claim_holds_iff scope).2 free
      have ofScope : (m.claim scope).1.scope = scope := Locks.enter_scope m.locks scope
      simp only [run]
      rw [if_pos holds]
      refine ih store (accounts.enter scope).join ?_ later
      rw [List.map_cons, ofScope]
      exact tidy
  | unlock _ ih =>
      obtain ⟨scope, rest, holding, tidy⟩ := tidy.of_unlock
      obtain ⟨guard, others, rfl, -, rfl⟩ := List.map_eq_cons_iff.1 holding
      exact ih (m := m.leave guard) store accounts.leave tidy unlined

end Market

end DebtMarket
