import DebtMarket.Proofs.Command.Rules
import DebtMarket.Proofs.Floor.Sufficiency
import DebtMarket.Proofs.Floor.Transitions

/-! Rejections on the floor. However a floor was reached, a command is refused by the first of
its rules that is broken there, and whoever is refused learns nothing about the later ones. A
command that breaks no rule succeeds, as the store has no objection of its own: versions may
grow, and what the command creates has a number that is not known yet.
-/

namespace DebtMarket

namespace Command

/-- A command with rules is carried out in one piece. -/
theorem SubjectTo.opening_eq {g : Given} {s : Store} {c : Command} {rules : List Rule}
    (h : c.SubjectTo g s rules)
    : c.opening = c := by
  cases h <;> rfl

end Command

namespace Floor

/-- The rows of every instrument form a chain on every floor that can be reached. -/
theorem Reachable.chained {f : Floor} (h : f.Reachable) : f.market.store.ledger.Chained := by
  obtain ⟨clock, threshold, outlet, source, schedule, rfl⟩ := h
  exact ((regular_start clock threshold outlet source).run schedule).chained

/-- On every floor that can be reached and whose versions may grow, a command is refused by the
first of its rules that is broken, and by nothing else; and it succeeds just if none is broken,
provided that the number of what it creates is not known yet.
-/
theorem first_rule_refuses {f : Floor} (h : f.Reachable) (growing : f.market.store.Growing)
    (g : Given) {c : Command} {rules : List Rule}
    (subject : c.SubjectTo g f.market.store rules)
    : let result := (c.operation.effect g f.market.store).result
      (∀ e, result = .error (.market e) ↔ FirstBroken rules e)
      ∧ ((∀ kind, c.creates? = some kind → g.uuid kind ∉ f.market.store.uuids kind)
        → ((∃ outcome, result = .ok outcome) ↔ ∀ r ∈ rules, r.Kept)) := by
  intro result
  have sound := h.consistent.sound
  have obeys := Operation.obeys_of_subjectTo sound h.unrivalled subject
  refine ⟨obeys, fun unknown => obeys.succeeds_iff fun e => ?_⟩
  have accepted := c.result_opening (g := g) sound h.chained growing
  rw [subject.opening_eq] at accepted
  exact accepted unknown e

namespace Sample

open Market.Sample

/-- An instrument is issued and listed. -/
def listed : Floor :=
  opened.run (inTurn (acceptances.take 3))

/-- No money at all. -/
def nothing : Decimal :=
  { one.decimal with magnitude := 0, magnitude_lt := by decide }

/-- A price of nothing that ends as soon as it is named. -/
def worthless : AskRequest :=
  { AskRequest.make ⟨⟨0⟩⟩ nothing euro with validUntil := some newYear }

/-- A price of one euro. -/
def price : AskRequest :=
  .make ⟨⟨0⟩⟩ one.decimal euro

end Sample

/-- Whoever does not sell is told so, and not that the price is worthless; the seller may name
a price that is worth something.
-/
theorem first_rule_refuses_ask
    : let s := Sample.listed.market.store
      let given : Given := ⟨Market.Sample.newYear, fun _ => ⟨0⟩⟩
      Sample.listed.Reachable ∧ s.Growing
      ∧ ((Command.placeAsk Sample.buyer Sample.worthless).operation.effect given s).result
        = .error (.market (.forbidden .listing ⟨0⟩ "only the seller may ask on a listing"))
      ∧ ∃ outcome,
          ((Command.placeAsk Sample.seller Sample.price).operation.effect given s).result
            = .ok outcome := by
  have reachable : Sample.listed.Reachable := ⟨_, _, _, _, _, rfl⟩
  have growing : decide Sample.listed.market.store.Growing = true := by cbv
  have listed : (Sample.listed.market.store.listings.get? ⟨⟨0⟩⟩).map
      (fun x => (x.status, x.seller)) = some (.opened, Sample.seller.company) := by cbv
  have asks : Sample.listed.market.store.uuids .ask = [] := by cbv
  obtain ⟨x, stored, facts⟩ := Option.map_eq_some_iff.1 listed
  simp only [Prod.mk.injEq] at facts
  obtain ⟨status, seller⟩ := facts
  have growing := of_decide_eq_true growing
  have found : ¬Sample.listed.market.store.listings.get? ⟨⟨0⟩⟩ = none := by
    rw [stored]
    exact Option.some_ne_none x
  have isOpen : (Rule.isOpen Sample.listed.market.store ⟨⟨0⟩⟩).Kept := by
    rw [Rule.isOpen, stored, Rule.about_some]
    exact Rule.against_kept (not_not.2 status)
  refine ⟨reachable, growing, ?_, ?_⟩
  · have refuses := (first_rule_refuses reachable growing
      ⟨Market.Sample.newYear, fun _ => ⟨0⟩⟩ (.placeAsk Sample.buyer Sample.worthless)).1
    refine (refuses _).2 (.later (Rule.against_kept found) (.later isOpen (.here ?_)))
    refine ⟨x, stored, ?_, rfl⟩
    rw [seller]
    decide
  · have succeeds := (first_rule_refuses reachable growing
      ⟨Market.Sample.newYear, fun _ => ⟨0⟩⟩ (.placeAsk Sample.seller Sample.price)).2
    refine (succeeds ?_).2 ?_
    · rintro _ ⟨⟩
      rw [asks]
      exact List.not_mem_nil
    · simp only [List.forall_mem_cons]
      refine ⟨Rule.against_kept found, isOpen, ?_, ?_, Rule.about_none _, by rintro _ ⟨⟩⟩
      · rintro e ⟨y, again, differ, -⟩
        cases stored.symm.trans again
        exact differ seller.symm
      · exact Rule.against_kept (by decide)

end Floor

end DebtMarket
