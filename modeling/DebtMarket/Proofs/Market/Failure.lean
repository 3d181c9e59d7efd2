import DebtMarket.Proofs.Command.Performs
import DebtMarket.Proofs.Market.Run
import DebtMarket.Proofs.Store.Table

/-! Requests that fail. A request that fails leaves the store and the publisher as they
were, with one exception: an instrument that was made active stays so when its issuance is
refused.
-/

namespace DebtMarket

open Operation

namespace Market

/-- The opening of a request that ran to its end has had its effect on the market. -/
theorem run_opening (c : Command) {held held' : List Guard} {m m' : Market}
    {result : Except Failure Outcome}
    (ended : run c.opening.operation held m = (.finished result held', m'))
    : m.Undergoes (c.opening.operation.effect m.given m.store) result m' :=
  run_orderly c.orderly_opening ended (fun _ => rfl) (fun _ _ _ => rfl)

/-- An opening that fails leaves the store and the publisher as they were. -/
theorem run_opening_failed (c : Command) {held held' : List Guard} {m m' : Market}
    {failure : Failure}
    (failed : run c.opening.operation held m = (.finished (.error failure) held', m'))
    : m'.store = m.store ∧ m'.publisher = m.publisher := by
  have undergone := run_opening c failed
  have nothing := c.orderly_opening.effect_error undergone.result
  have store := undergone.store
  have publisher := undergone.publisher
  rw [nothing] at store publisher
  exact ⟨store.symm, publisher⟩

/-- An instrument of a market was moved into the active status, which is the only change of
the store and the only change that was made known; its issuance was then refused.
-/
structure LeftUnissued (m : Market) (id : InstrumentId) (before after : Instrument)
    (failure : Failure) (m' : Market)
    : Prop where
  stored : m.store.instruments.get? id = some before
  inactive : before.status ≠ .active
  moved : after = before.moveTo .active m.clock
  status : after.status = .active
  maturity : after.maturityStatus = .due
  version : after.revision.version.toNat = before.revision.version.toNat + 1
  updated : after.revision.updatedAt = m.clock
  store : m'.store = { m.store with instruments := m.store.instruments.put after }
  publisher
    : m'.publisher
      = m.publisher.publish
          ⟨
            ⟨m.source .event (m.drawn .event)⟩,
            m.clock,
            .instrumentStatusChanged id before.status .active .due
          ⟩
  refused
    : ∃ g : Given, g.instant = m.clock
        ∧ (Command.recordIssuance id before.issuer).operation.effect g m'.store
            = .idle (.error failure) m'.store

/-- A version that is accepted after a change is greater by one: at the greatest version
the store refuses every further change.
-/
theorem write_moved {s s' : Store} {id : InstrumentId} {x : Instrument}
    {target : InstrumentStatus} {now : Instant} (stored : s.instruments.get? id = some x)
    (accepted : s.write (.instrument (x.moveTo target now)) = .ok s')
    : s' = { s with instruments := s.instruments.put (x.moveTo target now) }
      ∧ (x.moveTo target now).revision.version.toNat = x.revision.version.toNat + 1 := by
  simp only [Store.write_instrument] at accepted
  cases saved : s.instruments.save (x.moveTo target now) with
  | error e =>
      rw [saved] at accepted
      cases accepted
  | ok t =>
      rw [saved] at accepted
      cases accepted
      obtain ⟨newer, rfl⟩ := Table.save_eq_ok.1 saved
      refine ⟨rfl, ?_⟩
      have found := (Table.get?_eq_some.1 stored).1
      cases Table.find?_id found
      have grown : x.revision.version.toNat < (x.revision.touch now).version.toNat :=
        newer x found
      have bounded := Revision.toNat_nextVersion x.revision.version
      simp only [Revision.touch] at grown
      simp only [Instrument.moveTo, Revision.touch]
      omega

/-- An instrument that became active was moved there from another status, in its only
write.
-/
theorem run_activated {id : InstrumentId} {target : InstrumentStatus} {actor : Actor}
    {held held' : List Guard} {m m' : Market} {t : InstrumentTransition}
    (ended : run (Command.moveInstrument id target actor).operation held m
      = (.finished (.ok (.transition t)) held', m'))
    (activated : t.activated = true)
    : target = .active ∧ ∃ x, m.store.instruments.get? id = some x ∧ x.status ≠ .active
        ∧ t.instrument = x.moveTo .active m.clock
        ∧ m.store.write (.instrument t.instrument) = .ok m'.store
        ∧ m'.publisher
            = m.publisher.publish
                ⟨
                  ⟨m.source .event (m.drawn .event)⟩,
                  m.clock,
                  .instrumentStatusChanged id x.status .active .due
                ⟩ := by
  have undergone := run_opening (.moveInstrument id target actor) ended
  have result := undergone.result
  have store := undergone.store
  have publisher := undergone.publisher
  rcases (Command.moveInstrument id target actor).effect_opening m.given m.store with
    ⟨failure, effect⟩ | ⟨outcome, w, notice, s', performs, wrote, effect⟩
  · rw [effect] at result
    cases result
  · rw [effect] at result store publisher
    cases result
    cases performs with
    | keepInstrument stored same =>
        simp [InstrumentTransition.activated, same] at activated
    | @moveInstrument _ _ _ x verdict stored other permitted =>
        simp only [InstrumentTransition.activated, Instrument.moveTo, Bool.and_eq_true,
          bne_iff_ne, ne_eq, beq_iff_eq] at activated
        obtain ⟨inactive, rfl⟩ := activated
        refine ⟨rfl, x, stored, inactive, rfl, ?_, publisher⟩
        rw [← store]
        exact wrote

/-- A request that fails has left the store and the publisher as they were, unless it moved
an instrument into the active status and was then refused its issuance.
-/
theorem begin_failed (c : Command) (m m' : Market) (failure : Failure) (held : List Guard)
    (failed : m.begin c.operation = (.finished (.error failure) held, m'))
    : (m'.store = m.store ∧ m'.publisher = m.publisher)
      ∨ ∃ id actor before after, c = .transitionInstrument id .active actor
          ∧ m.LeftUnissued id before after failure m' := by
  rw [begin, Command.operation_eq, run_bind] at failed
  rcases opened : run c.opening.operation [] m with ⟨⟨result, held₁⟩ | task, m₁⟩
  case waiting => simp [opened] at failed
  cases result with
  | error refusal =>
      simp only [opened, Prod.mk.injEq, Progress.finished.injEq, Except.error.injEq] at failed
      obtain ⟨⟨-, -⟩, rfl⟩ := failed
      exact .inl (run_opening_failed c opened)
  | ok outcome =>
      simp only [opened] at failed
      cases sequel : c.sequel? outcome with
      | none => simp [sequel, run] at failed
      | some next =>
          obtain ⟨id, target, actor, t, rfl, rfl, activated, rfl⟩ :=
            Command.sequel?_eq_some sequel
          obtain ⟨rfl, x, stored, inactive, moved, written, published⟩ :=
            run_activated opened activated
          have clock := (run_opening (.moveInstrument id .active actor) opened).clock
          simp only [sequel, run_bind] at failed
          rcases issued : run (Command.recordIssuance id t.instrument.issuer).operation held₁ m₁
            with ⟨⟨result, held₂⟩ | task, m₂⟩
          case waiting => simp [issued] at failed
          cases result with
          | ok row => simp [issued, run] at failed
          | error refusal =>
              simp only [issued, Prod.mk.injEq, Progress.finished.injEq,
                Except.error.injEq] at failed
              obtain ⟨⟨rfl, -⟩, rfl⟩ := failed
              obtain ⟨kept, silent⟩ := run_opening_failed (.recordIssuance id _) issued
              have refused := (run_opening (.recordIssuance id _) issued).result
              have nothing :=
                (Command.orderly_opening (.recordIssuance id _)).effect_error refused
              rw [moved] at written nothing
              obtain ⟨stores, newer⟩ := write_moved stored written
              refine .inr ⟨id, actor, x, _, rfl, {
                stored,
                inactive,
                moved := rfl,
                status := rfl,
                maturity := rfl,
                version := newer,
                updated := rfl,
                store := kept.trans stores,
                publisher := silent.trans published,
                refused := ⟨m₁.given, clock, ?_⟩
              }⟩
              rw [kept]
              exact nothing


-----------------------------------------------------------------------------------------
-- An instrument that is left active without an issuance of its own
-----------------------------------------------------------------------------------------

namespace Sample

/-- An administrator of a company of their own. -/
def admin : Actor :=
  { user := ⟨⟨1⟩⟩, company := ⟨⟨1⟩⟩, role := .admin }

/-- An instrument that waits for approval. -/
def proposed : Instrument :=
  {
    id := ⟨⟨7⟩⟩,
    issuer := ⟨⟨2⟩⟩,
    createdBy := ⟨⟨2⟩⟩,
    name := "note",
    faceValue := one,
    currency := euro,
    maturityDate := nextYear,
    maturityPayment := one,
    publicPayload := none,
    status := .pendingApproval,
    maturityStatus := .notDue,
    tradingStatus := .draft,
    revision := Revision.first newYear
  }

/-- A market that knows an owner of an instrument before the instrument was activated. -/
def owned : Market :=
  let m := start newYear 1 .unbounded fun _ n => ⟨BitVec.ofNat 128 n⟩
  {
    m with
    store := {
      m.store with
      instruments := ⟨[proposed]⟩,
      ledger := ⟨[Ownership.issue proposed.id ⟨⟨3⟩⟩ newYear ⟨⟨9⟩⟩]⟩
    }
  }

end Sample

/-- The exception happens: an instrument with an owner is activated, and the issuance is
refused.
-/
theorem begin_failed_owned
    : ∃ failure m', Sample.owned.begin
          (Command.transitionInstrument Sample.proposed.id .active Sample.admin).operation
          = (.finished (.error failure) [], m')
        ∧ m'.store ≠ Sample.owned.store
        ∧ ∃ before after,
            Sample.owned.LeftUnissued Sample.proposed.id before after failure m' := by
  let c : Command := .transitionInstrument Sample.proposed.id .active Sample.admin
  let refusal : Failure := .market (.alreadyOwned Sample.proposed.id ⟨⟨3⟩⟩)
  have failed : Sample.owned.begin c.operation
      = (.finished (.error refusal) [], (Sample.owned.begin c.operation).2) := by rfl
  have changed : (Sample.owned.begin c.operation).2.store ≠ Sample.owned.store := by
    decide
  refine ⟨refusal, (Sample.owned.begin c.operation).2, failed, changed, ?_⟩
  rcases begin_failed c _ _ _ _ failed with ⟨kept, -⟩ | ⟨id, actor, before, after, same, left⟩
  · exact absurd kept changed
  · obtain ⟨rfl, -, -⟩ := Command.transitionInstrument.inj same
    exact ⟨before, after, left⟩

end Market

end DebtMarket
