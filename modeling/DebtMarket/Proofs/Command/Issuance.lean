import DebtMarket.Proofs.Command.Performs
import DebtMarket.Proofs.Ownership.Owner
import DebtMarket.Proofs.Policy
import DebtMarket.Proofs.Record

/-! Activation and issuance. A transition that makes an instrument active goes on to issue it
to its issuer. If instruments are made active and issued in no other way, then the issued
ones are the active ones but for those whose issuance is still owed, and an issuance that is
owed never fails.
-/

namespace DebtMarket

namespace Store

variable {s s' : Store} {id : InstrumentId} {owner : CompanyId} {owed : List Command}

/-- The issuer of an instrument that is active. -/
def activeIssuer? (s : Store) (id : InstrumentId) : Option CompanyId :=
  ((s.instruments.get? id).filter fun x => x.status == .active).map Instrument.issuer

theorem activeIssuer?_eq_some
    : s.activeIssuer? id = some owner
      ↔ ∃ x, s.instruments.get? id = some x ∧ x.status = .active ∧ x.issuer = owner := by
  simp [activeIssuer?, Option.filter_eq_some_iff, and_assoc]

/-- An instrument that is stored but not active has no active issuer. -/
theorem activeIssuer?_of_inactive {x : Instrument} (stored : s.instruments.get? id = some x)
    (inactive : x.status ≠ .active)
    : s.activeIssuer? id = none := by
  rw [activeIssuer?, stored, Option.filter_some, if_neg (by simpa using inactive)]
  rfl

theorem activeIssuer?_of_absent (absent : s.instruments.get? id = none)
    : s.activeIssuer? id = none := by
  rw [activeIssuer?, absent]
  rfl

/-- Putting an instrument in that is not active changes nothing if it was not active before.
-/
theorem activeIssuer?_put_inactive {x : Instrument} (before : s.activeIssuer? x.id = none)
    (inactive : x.status ≠ .active)
    : activeIssuer? { s with instruments := s.instruments.put x } = s.activeIssuer? := by
  funext id
  by_cases same : id = x.id
  · subst same
    rw [before, Option.eq_none_iff_forall_ne_some]
    intro owner active
    obtain ⟨y, found, status, -⟩ := activeIssuer?_eq_some.1 active
    rcases Table.of_get?_put found with rfl | ⟨other, -⟩
    · exact inactive status
    · exact other rfl
  · rw [activeIssuer?, activeIssuer?, Table.get?_put_other (Ne.symm same)]

/-- Putting an instrument in that is active makes it one of those that are. -/
theorem activeIssuer?_put_active {x : Instrument} (live : Table.isLive x = true)
    (active : x.status = .active)
    : activeIssuer? { s with instruments := s.instruments.put x }
      = Function.update s.activeIssuer? x.id (some x.issuer) := by
  funext id
  by_cases same : id = x.id
  · subst same
    rw [Function.update_self, activeIssuer?_eq_some]
    exact ⟨x, Table.get?_put_self live, active, rfl⟩
  · rw [Function.update_of_ne same, activeIssuer?, activeIssuer?,
      Table.get?_put_other (Ne.symm same)]

/-- The instruments that were issued are the active ones but for those whose issuance is
owed, each of them once; and all were issued to their issuers.
-/
structure Issues (owed : List Command) (s : Store) : Prop where
  once : owed.Nodup
  unissued
    : ∀ id owner, .recordIssuance id owner ∈ owed
      → s.ledger.firstOwner? id = none ∧ s.activeIssuer? id = some owner
  issued
    : ∀ id owner, s.ledger.firstOwner? id = some owner → s.activeIssuer? id = some owner
  settled
    : ∀ id owner, s.activeIssuer? id = some owner → s.ledger.firstOwner? id = none
      → .recordIssuance id owner ∈ owed

theorem issues_empty : empty.Issues [] where
  once := .nil
  unissued := fun _ _ member => absurd member List.not_mem_nil
  issued := fun _ _ issued => by cases issued
  settled := fun _ _ active => by cases active

theorem Issues.perm {owed' : List Command} (h : s.Issues owed) (same : owed.Perm owed')
    : s.Issues owed' where
  once := same.nodup_iff.1 h.once
  unissued := fun id owner member => h.unissued id owner (same.mem_iff.2 member)
  issued := h.issued
  settled := fun id owner active none => same.mem_iff.1 (h.settled id owner active none)

/-- Nothing changes as long as no instrument becomes active and none is issued. -/
theorem Issues.unchanged (h : s.Issues owed) (active : s'.activeIssuer? = s.activeIssuer?)
    (first : s'.ledger.firstOwner? = s.ledger.firstOwner?)
    : s'.Issues owed where
  once := h.once
  unissued := fun id owner member => by
    rw [active, first]
    exact h.unissued id owner member
  issued := fun id owner issued => by
    rw [active]
    exact h.issued id owner (by rwa [first] at issued)
  settled := fun id owner isActive none =>
    h.settled id owner (by rwa [active] at isActive) (by rwa [first] at none)

/-- The issuance of an instrument that becomes active is owed from then on. -/
theorem Issues.activated (h : s.Issues owed) (inactive : s.activeIssuer? id = none)
    (active : s'.activeIssuer? = Function.update s.activeIssuer? id (some owner))
    (first : s'.ledger.firstOwner? = s.ledger.firstOwner?)
    : s'.Issues (.recordIssuance id owner :: owed) := by
  have elsewhere {other : InstrumentId} {company : CompanyId}
      (before : s.activeIssuer? other = some company)
      : s'.activeIssuer? other = some company := by
    have apart : other ≠ id := by
      rintro rfl
      rw [inactive] at before
      cases before
    rw [active, Function.update_of_ne apart, before]
  have unissued : s.ledger.firstOwner? id = none := by
    rw [Option.eq_none_iff_forall_ne_some]
    intro company issued
    have before := h.issued id company issued
    rw [inactive] at before
    cases before
  refine {
    once := ?_
    unissued := fun other company member => ?_
    issued := fun other company issued => ?_
    settled := fun other company isActive none => ?_
  }
  · refine List.nodup_cons.2 ⟨fun member => ?_, h.once⟩
    have before := (h.unissued id owner member).2
    rw [inactive] at before
    cases before
  · rw [first]
    rcases List.mem_cons.1 member with same | member
    · cases same
      rw [active, Function.update_self]
      exact ⟨unissued, rfl⟩
    · obtain ⟨none, before⟩ := h.unissued other company member
      exact ⟨none, elsewhere before⟩
  · rw [first] at issued
    exact elsewhere (h.issued other company issued)
  · rw [first] at none
    rw [active] at isActive
    by_cases same : other = id
    · subst same
      rw [Function.update_self] at isActive
      cases isActive
      exact List.mem_cons_self
    · rw [Function.update_of_ne same] at isActive
      exact List.mem_cons_of_mem _ (h.settled other company isActive none)

/-- An issuance that is owed and made is owed no more. -/
theorem Issues.recorded (h : s.Issues (.recordIssuance id owner :: owed))
    (active : s'.activeIssuer? = s.activeIssuer?)
    (first : s'.ledger.firstOwner? = Function.update s.ledger.firstOwner? id (some owner))
    : s'.Issues owed := by
  obtain ⟨-, here⟩ := h.unissued id owner List.mem_cons_self
  obtain ⟨notOwed, once⟩ := List.nodup_cons.1 h.once
  refine {
    once
    unissued := fun other company member => ?_
    issued := fun other company issued => ?_
    settled := fun other company isActive none => ?_
  }
  · obtain ⟨none, before⟩ := h.unissued other company (List.mem_cons_of_mem _ member)
    have apart : other ≠ id := by
      rintro rfl
      cases Option.some.inj (here.symm.trans before)
      exact notOwed member
    rw [active, first, Function.update_of_ne apart]
    exact ⟨none, before⟩
  · rw [active]
    rw [first] at issued
    by_cases same : other = id
    · subst same
      rw [Function.update_self] at issued
      cases issued
      exact here
    · rw [Function.update_of_ne same] at issued
      exact h.issued other company issued
  · rw [active] at isActive
    rw [first] at none
    by_cases same : other = id
    · subst same
      rw [Function.update_self] at none
      cases none
    · rw [Function.update_of_ne same] at none
      rcases List.mem_cons.1 (h.settled other company isActive none) with here | member
      · cases here
        exact absurd rfl same
      · exact member

end Store

-----------------------------------------------------------------------------------------
-- What commands do to active instruments and to issuances
-----------------------------------------------------------------------------------------

/-- A write of listings, bids and asks only. -/
def Write.isOffer : Write → Bool
  | .listing _ | .bid _ | .bids _ | .ask _ => true
  | .instrument _ | .row _ | .transfer .. => false

theorem Store.write_offer {s s' : Store} {w : Write} (h : s.write w = .ok s')
    (offer : w.isOffer = true)
    : s'.instruments = s.instruments ∧ s'.ledger = s.ledger := by
  cases write_takes h with
  | instrument | row | transfer => cases offer
  | _ => exact ⟨rfl, rfl⟩

namespace Performs

variable {g : Given} {s s' : Store} {c : Command} {outcome : Outcome} {w : Option Write}
  {notice : Option (Happening × Instant)} {id : InstrumentId} {owner : CompanyId}
  {owed : List Command}

/-- No other command makes an instrument active or issues one. -/
theorem unchanged (h : Performs g s c outcome w notice) (wrote : s.Wrote w s')
    (sound : s.Sound) (chained : s.ledger.Chained)
    (noMove : ∀ id target actor, c ≠ .moveInstrument id target actor)
    (noIssuance : ∀ id owner, c ≠ .recordIssuance id owner)
    : s'.activeIssuer? = s.activeIssuer?
      ∧ s'.ledger.firstOwner? = s.ledger.firstOwner? := by
  have offered {w : Write} (written : s.write w = .ok s') (offer : w.isOffer = true)
      : s'.activeIssuer? = s.activeIssuer?
        ∧ s'.ledger.firstOwner? = s.ledger.firstOwner? := by
    obtain ⟨instruments, ledger⟩ := Store.write_offer written offer
    refine ⟨funext fun id => ?_, by rw [ledger]⟩
    rw [Store.activeIssuer?, instruments, Store.activeIssuer?]
  cases h with
  | keepInstrument => exact absurd rfl (noMove _ _ _)
  | moveInstrument => exact absurd rfl (noMove _ _ _)
  | recordIssuance => exact absurd rfl (noIssuance _ _)
  | createDraft checked =>
      obtain ⟨-, revision⟩ := Instrument.draft_new checked (g.id .instrument)
      obtain ⟨newer⟩ := Store.write_takes wrote
      have absent := sound.instruments.find?_of_first revision newer
      refine ⟨Store.activeIssuer?_put_inactive ?_ ?_, rfl⟩
      · exact Store.activeIssuer?_of_absent (Table.get?_of_absent absent)
      · rw [Instrument.draft_status checked]
        decide
  | updateDraft stored editable issuer nonempty applied =>
      obtain ⟨same, -⟩ := Instrument.applyUpdate_touch applied
      obtain ⟨-⟩ := Store.write_takes wrote
      obtain rfl := Table.get?_id stored
      have draft : _ = InstrumentStatus.draft := beq_iff_eq.1 editable
      refine ⟨Store.activeIssuer?_put_inactive ?_ ?_, rfl⟩
      · rw [same]
        exact Store.activeIssuer?_of_inactive stored (by rw [draft]; decide)
      · rw [Instrument.applyUpdate_status applied, draft]
        decide
  | transfer handed owned giver taker closed =>
      obtain ⟨l, transferred, rfl⟩ := Store.write_transfer_eq_ok.1 wrote
      exact ⟨rfl, Ledger.firstOwner?_transfer chained owned closed transferred⟩
  | keepDraft | keepListing | keepBid | keepAsk =>
      cases wrote
      exact ⟨rfl, rfl⟩
  | createListing | transitionListing | placeBid | transitionBid | acceptBid | rejectBid
  | placeAsk | transitionAsk | updateAsk => exact offered wrote rfl

/-- A transition that makes an instrument active owes its issuance from then on; no other one
changes anything about issuances.
-/
theorem issues_move {target : InstrumentStatus} {actor : Actor}
    (h : Performs g s (.moveInstrument id target actor) outcome w notice)
    (wrote : s.Wrote w s') (issues : s.Issues owed)
    : s'.Issues
        (((Command.transitionInstrument id target actor).sequel? outcome).toList ++ owed) := by
  cases h with
  | @keepInstrument _ _ _ x stored same =>
      cases wrote
      have still : InstrumentTransition.activated ⟨x, target⟩ = false := by
        simp [InstrumentTransition.activated, same]
      rw [Command.sequel?, if_neg (by rw [still]; decide)]
      exact issues
  | @moveInstrument _ _ _ x verdict stored other permitted =>
      obtain ⟨-⟩ := Store.write_takes wrote
      obtain rfl := Table.get?_id stored
      have listed := Policy.mem_moves other permitted
      have inactive : s.activeIssuer? x.id = none :=
        Store.activeIssuer?_of_inactive stored (Policy.mem_instrumentMoves listed)
      by_cases active : target = .active
      · subst active
        have becomes : InstrumentTransition.activated ⟨x.moveTo .active g.instant, x.status⟩
            = true := by
          simp [InstrumentTransition.activated, Instrument.moveTo, other]
        rw [Command.sequel?, if_pos becomes]
        exact issues.activated inactive
          (Store.activeIssuer?_put_active (Table.get?_eq_some.1 stored).2 rfl) rfl
      · have still : InstrumentTransition.activated ⟨x.moveTo target g.instant, x.status⟩
            = false := by
          simp [InstrumentTransition.activated, Instrument.moveTo, active]
        rw [Command.sequel?, if_neg (by rw [still]; decide)]
        exact issues.unchanged (Store.activeIssuer?_put_inactive inactive active) rfl

/-- An issuance that was owed is owed no more when it is recorded. -/
theorem issues_record (h : Performs g s (.recordIssuance id owner) outcome w notice)
    (wrote : s.Wrote w s') (chained : s.ledger.Chained)
    (issues : s.Issues (.recordIssuance id owner :: owed))
    : s'.Issues owed := by
  cases h with
  | recordIssuance unowned =>
      obtain ⟨l, inserted, rfl⟩ := Store.write_row_eq_ok.1 wrote
      exact issues.recorded rfl (Ledger.firstOwner?_insert chained inserted rfl)

end Performs

namespace Operation

variable {g : Given} {s : Store} {id : InstrumentId}

/-- An instrument without rows can be issued. -/
theorem effect_recordIssuance (owner : CompanyId) (unissued : s.ledger.rowsOf id = [])
    : ∃ row, ((recordIssuance id owner).effect g s).result = .ok row := by
  have unowned : s.ledger.active? id = none := by
    rw [Ledger.active?, unissued]
    rfl
  have inserted
      : s.ledger.insert (.issue id owner g.instant (g.id .ownership))
        = .ok ⟨s.ledger.rows ++ [.issue id owner g.instant (g.id .ownership)]⟩ := by
    refine Ledger.insert_eq_ok.2 ⟨?_, fun _ => unowned, rfl⟩
    refine Ledger.hasRow_eq_false.2 fun row member => ?_
    exact absurd (unissued ▸ member) List.not_mem_nil
  have written := Store.write_row_eq_ok.2 ⟨_, inserted, rfl⟩
  have answer : s.answer (.activeRow id) = none := unowned
  rw [recordIssuance, effect_changing, effect_query_bind, answer]
  simp only [effect_now_bind, effect_draw_bind, effect_save_bind, written,
    effect_pure, Effect.andThen_idle_ok]
  exact ⟨_, rfl⟩

/-- A move of an instrument never finds it owned: it does not look at the ledger. -/
theorem effect_moveInstrument (target : InstrumentStatus) (actor : Actor)
    (instrument : InstrumentId) (owner : CompanyId)
    : ((moveInstrument id target actor).effect g s).result
      ≠ .error (.market (.alreadyOwned instrument owner)) := by
  rw [moveInstrument, effect_changing, requireInstrument_eq, bind_assoc, effect_query_bind]
  cases s.answer (.instrument id) with
  | none =>
      intro ended
      cases ended
  | some x =>
      simp only [orRefuse, pure_bind]
      split
      · intro ended
        cases ended
      · simp only [effect_discard_bind, effect_check_bind]
        cases permitted : Policy.authorize (actor.standing x.issuer) id.uuid x.status target with
        | error e =>
            obtain ⟨reason, rfl⟩ := Policy.authorize_eq_error permitted
            intro ended
            cases ended
        | ok verdict =>
            simp only [effect_now_bind, effect_save_bind]
            split
            · intro ended
              cases ended
            · intro ended
              cases ended

end Operation

namespace Command

/-- The issuance that a command is. -/
def issuance? : Command → Option Command
  | recordIssuance id owner => some (recordIssuance id owner)
  | _ => none

/-- The command that a request has to go on with after a result of its opening. -/
def leaves? (c : Command) : Except Failure Outcome → Option Command
  | .ok outcome => c.sequel? outcome
  | .error _ => none

variable {c : Command} {g : Given} {s s' : Store} {owed : List Command}
  {result : Except Failure Outcome} {notices : List (Happening × Instant)}

/-- An issuance that is owed is recorded: nobody owns the instrument. -/
theorem issues_recordIssuance {id : InstrumentId} {owner : CompanyId}
    (effect : (recordIssuance id owner).operation.effect g s = ⟨result, s', notices⟩)
    (chained : s.ledger.Chained) (issues : s.Issues (.recordIssuance id owner :: owed))
    : (∃ outcome, result = .ok outcome) ∧ s'.Issues owed := by
  have unissued := (issues.unissued id owner List.mem_cons_self).1
  obtain ⟨row, issued⟩ :=
    Operation.effect_recordIssuance (g := g) owner (Ledger.firstOwner?_eq_none.1 unissued)
  rcases (recordIssuance id owner).effect_opening g s with
    ⟨failure, idle⟩ | ⟨outcome, w, notice, s₁, performs, wrote, ends⟩
  · have failed : ((recordIssuance id owner).operation.effect g s).result = .error failure :=
      congrArg Effect.result idle
    rw [operation, Operation.effect_map, Effect.andThen, issued] at failed
    cases failed
  · cases effect.symm.trans ends
    exact ⟨⟨outcome, rfl⟩, performs.issues_record wrote chained issues⟩

/-- The opening of a request keeps count of the issuances, by cases on the request. -/
theorem issues_opening (effect : c.opening.operation.effect g s = ⟨result, s', notices⟩)
    (sound : s.Sound) (chained : s.ledger.Chained)
    (noMove : ∀ id target actor, c ≠ .moveInstrument id target actor)
    (issues : s.Issues (c.issuance?.toList ++ owed))
    : s'.Issues ((c.leaves? result).toList ++ owed) := by
  by_cases issuance : ∃ id owner, c = .recordIssuance id owner
  · obtain ⟨id, owner, rfl⟩ := issuance
    obtain ⟨⟨outcome, rfl⟩, recorded⟩ := issues_recordIssuance effect chained issues
    exact recorded
  · have noIssuance (id : InstrumentId) (owner : CompanyId) : c ≠ .recordIssuance id owner :=
      fun same => issuance ⟨id, owner, same⟩
    have issues : s.Issues owed := by
      cases c with
      | recordIssuance id owner => exact absurd rfl (noIssuance id owner)
      | _ => exact issues
    rcases c.effect_opening g s with
      ⟨failure, idle⟩ | ⟨outcome, w, notice, s₁, performs, wrote, ends⟩
    · cases effect.symm.trans idle
      exact issues
    · cases effect.symm.trans ends
      cases c with
      | transitionInstrument id target actor => exact performs.issues_move wrote issues
      | moveInstrument id target actor => exact absurd rfl (noMove id target actor)
      | recordIssuance id owner => exact absurd rfl (noIssuance id owner)
      | _ =>
          obtain ⟨active, first⟩ := performs.unchanged wrote sound chained nofun nofun
          exact issues.unchanged active first

end Command

end DebtMarket
