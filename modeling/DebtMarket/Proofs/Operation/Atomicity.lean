import DebtMarket.Proofs.Operation.Discipline

/-! Operations that fail do nothing. What is left after the write, or after a refusal, has
its verdict already: nothing that it is given and nothing that others do can change how it
ends. A refusal comes before any change, so an operation that fails has no effect at all.
-/

namespace DebtMarket.Operation

variable {α β : Type}

/-- The result that an operation has already come to, if all that it still has to do is to
give up locks and to make a change known.
-/
def verdict : Operation α → Option (Except Failure α)
  | .done a => some (.ok a)
  | .fail failure => some (.error failure)
  | .call (.publish _ _) next => (next ()).verdict
  | .unlock next => next.verdict
  | _ => none

/-- What has its verdict comes to it and does nothing but make changes known, by induction
on what is left.
-/
theorem effect_of_verdict {p : Operation α} {result : Except Failure α}
    (h : p.verdict = some result)
    : ∃ notices, ∀ g s, p.effect g s = ⟨result, s, notices⟩ := by
  induction p with
  | done a =>
      cases h
      exact ⟨[], fun _ _ => rfl⟩
  | fail failure =>
      cases h
      exact ⟨[], fun _ _ => rfl⟩
  | call c next ih =>
      cases c with
      | publish happening time =>
          obtain ⟨notices, effect⟩ := ih () h
          refine ⟨(happening, time) :: notices, fun g s => ?_⟩
          simp only [Operation.effect, effect]
      | _ => cases h
  | lock scope next ih => cases h
  | unlock next ih => exact ih h

/-- What closes has its verdict, by induction on it. -/
theorem Closing.verdict_eq {well : Bool} {taken : List Scope} {p : Operation α}
    (h : Closing well taken p)
    : ∃ result, p.verdict = some result := by
  induction h with
  | done a => exact ⟨.ok a, rfl⟩
  | fail failure => exact ⟨.error failure, rfl⟩
  | publish rest ih => exact ih
  | unlock rest ih => exact ih

/-- What closes well ends with a result, by induction on it. -/
theorem Closing.effect_ok {taken : List Scope} {p : Operation α}
    (h : Closing true taken p) (g : Given) (s : Store)
    : ∃ a, (p.effect g s).result = .ok a := by
  generalize hw : true = well at h
  induction h with
  | done a => exact ⟨a, rfl⟩
  | fail failure => cases hw
  | publish rest ih => exact ih hw
  | unlock rest ih => exact ih hw

/-- What does not close well fails without a word, by induction on it. -/
theorem Closing.effect_fail {taken : List Scope} {p : Operation α}
    (h : Closing false taken p)
    : ∃ failure, ∀ g s, p.effect g s = .idle (.error failure) s := by
  generalize hw : false = well at h
  induction h with
  | done a => cases hw
  | fail failure => exact ⟨failure, fun _ _ => rfl⟩
  | publish rest ih => cases hw
  | unlock rest ih =>
      obtain ⟨failure, effect⟩ := ih hw
      exact ⟨failure, fun g s => effect g s⟩

/-- An orderly operation that fails has changed nothing and made nothing known, by
induction on it: a refused write is followed by a failure, an accepted one never is.
-/
theorem Orderly.effect_error {kept taken : List Scope} {d : Drawn} {p : Operation α}
    (h : Orderly kept taken d p) {g : Given} {s : Store} {failure : Failure}
    (failed : (p.effect g s).result = .error failure)
    : p.effect g s = .idle (.error failure) s := by
  induction h with
  | @close well taken d p closing =>
      cases well with
      | true =>
          obtain ⟨a, ended⟩ := closing.effect_ok g s
          rw [ended] at failed
          cases failed
      | false =>
          obtain ⟨other, effect⟩ := closing.effect_fail
          rw [effect] at failed ⊢
          cases failed
          rfl
  | now unread rest ih => exact ih g.instant failed
  | draw named undrawn rest ih => exact ih (g.id _) failed
  | query rest ih => exact ih (s.answer _) failed
  | lock fits rest ih => exact ih failed
  | @write taken d w next refused accepted =>
      simp only [Operation.effect] at failed ⊢
      cases written : s.write w with
      | error e =>
          obtain ⟨other, effect⟩ := (refused e).effect_fail
          simp only [written, effect] at failed ⊢
          cases failed
          rfl
      | ok s' =>
          obtain ⟨a, ended⟩ := accepted.effect_ok g s'
          simp only [written, ended] at failed
          cases failed

end DebtMarket.Operation
