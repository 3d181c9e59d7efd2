import DebtMarket.Proofs.Operation.Laws

/-! When operations read the clock. A command that lists an instrument, issues it or hands it on
locks the instrument before it reads the clock, and reads the clock before it writes. So the
time that it enters is one at which nobody else can enter anything for the instrument.
-/

namespace DebtMarket

namespace Operation

variable {α β : Type}

/-- An operation that writes nothing before it reads the clock. -/
def Undated : Operation α → Prop
  | .done _ | .fail _ | .call .now _ => True
  | .call (.write _) _ => False
  | .call (.draw _) next => ∀ id, (next id).Undated
  | .call (.query _) next => ∀ reply, (next reply).Undated
  | .call (.publish ..) next => (next ()).Undated
  | .lock _ next | .unlock next => next.Undated

/-- An operation that locks a scope before it reads the clock, and reads the clock before it
writes anything.
-/
def Awaits (scope : Scope) : Operation α → Prop
  | .done _ | .fail _ => True
  | .call .now _ | .call (.write _) _ => False
  | .call (.draw _) next => ∀ id, (next id).Awaits scope
  | .call (.query _) next => ∀ reply, (next reply).Awaits scope
  | .call (.publish ..) next => (next ()).Awaits scope
  | .lock other next => other = scope ∧ next.Undated
  | .unlock next => next.Awaits scope

variable {scope : Scope} {p q : Operation α}

/-- What writes nothing before it reads the clock may be followed by more of this kind, by
induction on it.
-/
theorem Undated.bind (h : p.Undated) {f : α → Operation β} (hf : ∀ a, (f a).Undated)
    : (p.bind f).Undated := by
  induction p with
  | done a => exact hf a
  | fail failure => trivial
  | lock scope next ih => exact ih h
  | unlock next ih => exact ih h
  | call c next ih =>
      cases c with
      | now => trivial
      | draw kind => exact fun id => ih id (h id)
      | query q => exact fun reply => ih reply (h reply)
      | write w => exact h
      | publish happening time => exact ih () h

/-- Giving up a lock at the end writes nothing, by induction on the operation. -/
theorem Undated.releasing (h : p.Undated) : p.releasing.Undated := by
  induction p with
  | done a => trivial
  | fail failure => trivial
  | lock scope next ih => exact ih h
  | unlock next ih => exact ih h
  | call c next ih =>
      cases c with
      | now => trivial
      | draw kind => exact fun id => ih id (h id)
      | query q => exact fun reply => ih reply (h reply)
      | write w => exact h
      | publish happening time => exact ih () h

theorem Undated.ite {c : Prop} [Decidable c] (hp : p.Undated) (hq : q.Undated)
    : (if c then p else q).Undated := by
  split
  · exact hp
  · exact hq

/-- To make a change known writes nothing, by cases on what there is to tell. -/
theorem undated_announce (change : Change α) : (announce change).Undated := by
  obtain ⟨result, notice⟩ := change
  cases notice <;> trivial

/-- A change is made under its lock. -/
theorem Undated.changing {body : Operation (Change α)} (h : body.Undated)
    : (changing scope body).Awaits scope :=
  ⟨rfl, h.releasing.bind undated_announce⟩

theorem Awaits.ite {c : Prop} [Decidable c] (hp : p.Awaits scope) (hq : q.Awaits scope)
    : (if c then p else q).Awaits scope := by
  split
  · exact hp
  · exact hq

/-- A result may be renamed, by induction on the operation. -/
theorem Awaits.map (h : p.Awaits scope) (f : α → β) : (f <$> p).Awaits scope := by
  rw [map_eq]
  induction p with
  | done a => trivial
  | fail failure => trivial
  | lock scope next ih => exact ⟨h.1, h.2.bind fun _ => trivial⟩
  | unlock next ih => exact ih h
  | call c next ih =>
      cases c with
      | now => exact h
      | draw kind => exact fun id => ih id (h id)
      | query q => exact fun reply => ih reply (h reply)
      | write w => exact h
      | publish happening time => exact ih () h

theorem awaits_recordIssuance (instrument : InstrumentId) (owner : CompanyId)
    : (recordIssuance instrument owner).Awaits (.instrument instrument) := by
  refine Undated.changing fun active => ?_
  cases active <;> trivial

theorem awaits_transfer (instrument : InstrumentId) (fromOwner toOwner : CompanyId)
    (reason : AcquisitionReason)
    : (transfer instrument fromOwner toOwner reason).Awaits (.instrument instrument) := by
  have owned : (requireOwner instrument fromOwner).Undated := by
    refine fun active => ?_
    cases active with
    | none => trivial
    | some row => exact .ite trivial trivial
  exact .ite trivial (Undated.changing (owned.bind fun active => .ite trivial trivial))

theorem awaits_createListing (instrument : InstrumentId) (actor : Actor)
    : (createListing instrument actor).Awaits (.instrument instrument) := by
  refine fun found => ?_
  cases found with
  | none => trivial
  | some x =>
      refine Undated.changing fun active => ?_
      cases active with
      | none => trivial
      | some row =>
          refine .ite trivial fun offered => ?_
          cases offered <;> trivial

end Operation

namespace Command

/-- The instrument that a command lists, issues or hands on. -/
def books? : Command → Option InstrumentId
  | createListing instrument _ | recordIssuance instrument _ | transfer instrument .. =>
      some instrument
  | _ => none

/-- A command that lists an instrument, issues it or hands it on locks it before it reads the
clock: by cases on the command.
-/
theorem awaits_opening (c : Command) {instrument : InstrumentId}
    (books : c.opening.books? = some instrument)
    : c.opening.operation.Awaits (.instrument instrument) := by
  cases c with
  | createListing instrument actor =>
      cases books
      exact (Operation.awaits_createListing _ _).map _
  | recordIssuance instrument owner =>
      cases books
      exact (Operation.awaits_recordIssuance _ _).map _
  | transfer instrument fromOwner toOwner reason =>
      cases books
      exact (Operation.awaits_transfer _ _ _ _).map _
  | _ => cases books

end Command

end DebtMarket
