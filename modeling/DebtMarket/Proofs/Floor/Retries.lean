import DebtMarket.Proofs.Command.Repeats
import DebtMarket.Proofs.Floor.Issuance
import DebtMarket.Proofs.Floor.Rejections

/-! Requests that are sent again. Whoever does not know whether a request succeeded may send it
again at once: whatever the clock says by then, and whoever else is at work on the floor, the
second request does not wait, changes no record and makes nothing known. It is answered with the
record as it stands, or it is refused because of what the first one did.
-/

namespace DebtMarket

/-- An instrument that was moved is found in its status when the move is repeated along with the
issuance that may follow it.
-/
theorem Command.repeats_transition {s s' : Store} {id : InstrumentId} {target : InstrumentStatus}
    {actor : Actor} {t : InstrumentTransition}
    (stored : s'.instruments.get? id = some t.instrument) (status : t.instrument.status = target)
    : ∃ answer scopes, (transitionInstrument id target actor).Repeats s' (.transition t) answer
        ∧ (transitionInstrument id target actor).operation.Quiet s' scopes answer
        ∧ ∀ scope ∈ scopes, (transitionInstrument id target actor).operation.Seeks s scope := by
  have moved := (Operation.quiet_moveInstrument actor stored status).map Outcome.transition
  have kept : (transitionInstrument id target actor).sequel? (.transition ⟨t.instrument, target⟩)
      = none := by
    simp [sequel?, InstrumentTransition.activated, status]
  refine ⟨_, [.instrument id] ++ [], .transitionInstrument stored status, ?_, ?_⟩
  · rw [operation_eq]
    refine Operation.Quiet.bind moved ?_
    simp only [kept]
    exact .done _
  · rw [operation_eq]
    exact List.forall_mem_singleton.2 .lock

namespace Market

variable {c : Command} {outcome : Outcome} {held held' : List Guard} {m m' : Market}

/-- An opening that came to an outcome has succeeded in one of its ways. -/
theorem performed_of_ended
    (ended : run c.opening.operation held m = (.finished (.ok outcome) held', m'))
    : ∃ w notice, Performs m.given m.store c.opening outcome w notice
        ∧ m.store.Wrote w m'.store := by
  have undergone := run_opening c ended
  have result := undergone.result
  have store := undergone.store
  rcases c.effect_opening m.given m.store with
    ⟨failure, idle⟩ | ⟨first, w, notice, s', performs, wrote, effect⟩
  · rw [idle] at result
    cases result
  · rw [effect] at result store
    cases result
    cases store
    exact ⟨w, notice, performs, wrote⟩

/-- A request that came to an outcome has carried out its opening, and then its sequel if there
is one.
-/
theorem opening_of_begun (begun : m.begin c.operation = (.finished (.ok outcome) held, m'))
    : ∃ held₁ m₁, run c.opening.operation [] m = (.finished (.ok outcome) held₁, m₁)
        ∧ (c.sequel? outcome = none ∧ m' = m₁
          ∨ ∃ next row held₂, c.sequel? outcome = some next
              ∧ run next.operation held₁ m₁ = (.finished (.ok row) held₂, m')) := by
  rw [begin, Command.operation_eq, run_bind] at begun
  rcases ran : run c.opening.operation [] m with ⟨⟨failure | first, held₁⟩ | task, m₁⟩
  · rw [ran] at begun
    cases begun
  · simp only [ran] at begun
    cases follows : c.sequel? first with
    | none =>
        simp only [follows, run, Prod.mk.injEq, Progress.finished.injEq, Except.ok.injEq] at begun
        obtain ⟨⟨rfl, rfl⟩, rfl⟩ := begun
        exact ⟨held₁, m₁, rfl, .inl ⟨follows, rfl⟩⟩
    | some next =>
        simp only [follows, run_bind] at begun
        rcases went : run next.operation held₁ m₁ with ⟨⟨failure | row, held₂⟩ | task, m₂⟩
        · rw [went] at begun
          cases begun
        · simp only [went, run, Prod.mk.injEq, Progress.finished.injEq, Except.ok.injEq] at begun
          obtain ⟨⟨rfl, rfl⟩, rfl⟩ := begun
          exact ⟨held₁, m₁, rfl, .inr ⟨next, row, held₂, follows, went⟩⟩
        · rw [went] at begun
          cases begun
  · rw [ran] at begun
    cases begun

/-- A request that succeeded finds its work done when it is repeated, and what it locks then it
had to lock before.
-/
theorem repeats_of_begun (begun : m.begin c.operation = (.finished (.ok outcome) held, m'))
    (settles : c.settles = true) (sound : m.store.Sound) (chained : m.store.ledger.Chained)
    : ∃ answer scopes, c.Repeats m'.store outcome answer
        ∧ c.operation.Quiet m'.store scopes answer
        ∧ ∀ scope ∈ scopes, c.operation.Seeks m.store scope := by
  obtain ⟨held₁, m₁, ended, rest⟩ := opening_of_begun begun
  obtain ⟨w, notice, performs, wrote⟩ := performed_of_ended ended
  rcases rest with ⟨single, rfl⟩ | ⟨next, row, held₂, follows, ended'⟩
  · cases c with
    | transitionInstrument id target actor =>
        obtain ⟨t, rfl, stored, status⟩ := performs.moved_instrument wrote
        exact Command.repeats_transition stored status
    | _ => exact performs.repeats wrote settles sound chained
  · obtain ⟨id, target, actor, t, rfl, rfl, -, rfl⟩ := Command.sequel?_eq_some follows
    obtain ⟨_, ⟨⟩, stored, status⟩ := performs.moved_instrument wrote
    obtain ⟨w', notice', issues, wrote'⟩ :=
      performed_of_ended (c := .recordIssuance id t.instrument.issuer) ended'
    have instruments := (issues.issued wrote').1
    exact Command.repeats_transition (instruments ▸ stored) status

end Market

namespace Floor

/-- A request that moves a record to a status, offers, issues or hands over an instrument, or
answers a bid, and that succeeds on a floor that can be reached, does nothing when it is sent
again at once, at whatever time: it ends without waiting, with the answer that tells what it did,
and the store and the publisher stay as they are.
-/
theorem retried {f : Floor} (reachable : f.Reachable) {c : Command} (settles : c.settles = true)
    {outcome : Outcome} {held : List Guard} {m : Market}
    (begun : f.market.begin c.operation = (.finished (.ok outcome) held, m)) (now : Instant)
    : ∃ answer m', c.Repeats m.store outcome answer
        ∧ (m.setClock now).begin c.operation = (.finished answer [], m')
        ∧ m'.store = m.store ∧ m'.publisher = m.publisher := by
  have consistent := reachable.consistent
  have claims : f.market.locks.Accounts (Market.claimsOf [] ++ Task.claimsOf f.tasks) :=
    consistent.locked.accounts
  obtain ⟨answer, scopes, repeats, quiet, seeks⟩ :=
    Market.repeats_of_begun begun settles consistent.sound reachable.chained
  have unlined (scope : Scope) (locked : scope ∈ scopes)
      : Unlined (Task.claimsOf f.tasks) scope :=
    Market.unlined_of_ended (seeks scope locked) claims begun
  have left : (m.setClock now).locks.Accounts (Market.claimsOf [] ++ Task.claimsOf f.tasks) :=
    (Market.run_tidy c.tidy_operation rfl claims begun).2
  obtain ⟨m', ended, store, publisher⟩ :=
    Market.run_quiet (m := m.setClock now) quiet rfl left c.tidy_operation unlined
  exact ⟨answer, m', repeats, ended, store, publisher⟩

namespace Sample

/-- An instrument waits for approval, and a task has entered the slot of its lock. -/
def proposing : Floor :=
  opened.run
    (inTurn [.createDraft seller note, .transitionInstrument ⟨⟨0⟩⟩ .pendingApproval seller]
      ++ [.request (.transitionInstrument ⟨⟨0⟩⟩ .draft seller), .step 2])

/-- The instrument is approved. -/
def approval : Command :=
  .transitionInstrument ⟨⟨0⟩⟩ .active regulator

/-- Whether an instrument was activated at the end. -/
def activates : Progress Outcome → Bool
  | .finished (.ok (.transition t)) _ => t.activated
  | _ => false

end Sample

/-- An approval that is sent again finds the instrument active, and does not issue it again. -/
theorem retried_approval
    : ∃ t held m m', t.activated = true
        ∧ Sample.proposing.market.begin Sample.approval.operation
          = (.finished (.ok (.transition t)) held, m)
        ∧ (m.setClock Market.Sample.newYear).begin Sample.approval.operation
          = (.finished (.ok (.transition ⟨t.instrument, .active⟩)) [], m')
        ∧ m'.store = m.store ∧ m'.publisher = m.publisher := by
  have activates
      : Sample.activates (Sample.proposing.market.begin Sample.approval.operation).1 = true := by
    cbv
  have reachable : Sample.proposing.Reachable := ⟨_, _, _, _, _, rfl⟩
  rcases begun : Sample.proposing.market.begin Sample.approval.operation with
    ⟨⟨failure | outcome, held⟩ | task, m⟩
  · rw [begun] at activates
    cases activates
  · obtain ⟨answer, m', repeats, ended, store, publisher⟩ :=
      retried reachable rfl begun Market.Sample.newYear
    rw [begun] at activates
    cases repeats with
    | transitionInstrument stored status =>
        exact ⟨_, held, m, m', activates, rfl, ended, store, publisher⟩
  · rw [begun] at activates
    cases activates

end Floor

end DebtMarket
