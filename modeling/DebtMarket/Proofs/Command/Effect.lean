import DebtMarket.Proofs.Operation.Effect

/-! The effect of a whole request: that of its opening, followed by that of its sequel if the
outcome of the opening asks for one. The sequel reads the clock again, and is given what it
reads and draws apart from what the opening was given.
-/

namespace DebtMarket.Command

variable {g g' : Given} {s s₁ : Store} {related : Store → Store → Prop}

/-- The effect of a request when nothing else happens meanwhile. -/
def effect (c : Command) (g g' : Given) (s : Store) : Effect Outcome :=
  (c.opening.operation.effect g s).andThen fun outcome s =>
    match c.sequel? outcome with
    | some next => (next.operation.effect g' s).andThen fun _ s => .idle (.ok outcome) s
    | none => .idle (.ok outcome) s

/-- A request whose sequel is given the same as its opening has the effect of its operation. -/
theorem operation_effect (c : Command) (g : Given) (s : Store)
    : c.operation.effect g s = c.effect g g s := by
  rw [operation_eq, Operation.effect_bind, effect]
  refine congrArg _ (funext fun outcome => funext fun s => ?_)
  cases c.sequel? outcome with
  | none => rfl
  | some next => exact Operation.effect_bind _ _ _ _

/-- Two effects of a request are alike if those of its opening are, and those of an issuance
that follows it.
-/
theorem effect_alike (c : Command)
    (opening
      : (c.opening.operation.effect g s).Alike related (c.opening.operation.effect g s₁))
    (sequel
      : ∀ id target actor owner s' s₁', c = transitionInstrument id target actor
        → related s' s₁'
        → ((recordIssuance id owner).operation.effect g' s').Alike related
            ((recordIssuance id owner).operation.effect g' s₁'))
    : (c.effect g g' s).Alike related (c.effect g g' s₁) := by
  rw [effect, effect]
  refine opening.andThen fun outcome _ => ?_
  have related := opening.store
  cases follows : c.sequel? outcome with
  | none => exact ⟨rfl, rfl, related⟩
  | some next =>
      obtain ⟨id, target, actor, t, same, -, -, rfl⟩ := sequel?_eq_some follows
      have issued := sequel id target actor t.instrument.issuer _ _ same related
      exact issued.andThen fun _ _ => ⟨rfl, rfl, issued.store⟩

end DebtMarket.Command
