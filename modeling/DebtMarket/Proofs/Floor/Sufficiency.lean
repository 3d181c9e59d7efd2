import DebtMarket.Proofs.Floor.Freshness
import DebtMarket.Proofs.Floor.Ownership
import DebtMarket.Proofs.Floor.Selection

/-! The locks suffice. Whatever a task writes was checked under locks that keep the outcome of
the checks as it was, so the store never refuses it: its version is the next one, no other
listing is open, no other row is open, and its identifier is new. What a task itself has found
under its locks stays so as well: no row that it closes and no bid that it resolves has been
closed or resolved meanwhile.
-/

namespace DebtMarket

namespace Floor

variable {f : Floor}

/-- No number of any kind was drawn twice. -/
def Fresh (f : Floor) : Prop :=
  ∀ kind, (f.market.issued kind).Nodup

/-- Freshness is a test of each kind. -/
theorem fresh_iff (f : Floor)
    : f.Fresh
      ↔ [IdKind.instrument, .listing, .bid, .ask, .ownership, .company, .user, .event].all
          (fun kind => decide (f.market.issued kind).Nodup) = true := by
  simp only [List.all_eq_true, decide_eq_true_eq]
  exact ⟨fun h kind _ => h kind, fun h kind => h kind (by cases kind <;> decide)⟩

instance (f : Floor) : Decidable f.Fresh :=
  decidable_of_iff _ (fresh_iff f).symm

/-- The store has refused no task. -/
def Unrefused (f : Floor) : Prop :=
  ∀ t ∈ f.tasks, ∀ e, t.verdict? ≠ some (.error (.store e))

/-- A floor with all that keeps the store from refusing a task. -/
structure Regular (f : Floor) : Prop where
  consistent : f.Consistent
  chained : f.market.store.ledger.Chained
  bound : ∀ t ∈ f.tasks, t.Bound
  thrifty : f.Thrifty

theorem regular_start (clock : Instant) (threshold : Nat) (outlet : Outlet)
    (source : IdKind → Nat → Uuid)
    : (start clock threshold outlet source).Regular where
  consistent := consistent_start clock threshold outlet source
  chained := Ledger.chained_empty
  bound := fun _ member => absurd member List.not_mem_nil
  thrifty := thrifty_start clock threshold outlet source

/-- Every turn keeps a floor regular. -/
theorem Regular.after (h : f.Regular) (turn : Turn) : (f.after turn).Regular where
  consistent := h.consistent.after turn
  chained := by
    rcases h.consistent.after_store turn with same | yields
    · rw [same]
      exact h.chained
    · exact (yields.chained h.chained).1
  bound := forall_after Task.kept_bound h.bound turn
  thrifty := h.thrifty.after h.consistent h.bound turn

/-- Every schedule keeps a floor regular, by induction on it. -/
theorem Regular.run (h : f.Regular) (schedule : List Turn) : (f.run schedule).Regular := by
  induction schedule generalizing f with
  | nil => exact h
  | cons turn rest ih => exact ih (h.after turn)

/-- Numbers that are fresh after a turn were fresh before it. -/
theorem Regular.fresh_before (h : f.Regular) {turn : Turn} (fresh : (f.after turn).Fresh)
    : f.Fresh :=
  fun kind => (h.consistent.after_issued turn kind).sublist.nodup (fresh kind)

/-- Versions that may grow after a turn could before it. -/
theorem Regular.growing_before (h : f.Regular) {turn : Turn}
    (growing : (f.after turn).market.store.Growing)
    : f.market.store.Growing := by
  rcases h.consistent.after_store turn with same | ⟨_, _, _, _, _, _, written⟩
  · rw [← same]
    exact growing
  · exact (Store.write_takes written).growing h.consistent.sound growing

/-- The store refuses no task in a turn: a task that it would refuse has changed nothing, and
what it would have created has a number that nobody else has stored anything under.
-/
theorem Regular.unrefused_after (h : f.Regular) (before : f.Unrefused) (turn : Turn)
    (fresh : (f.after turn).Fresh) (growing : (f.after turn).market.store.Growing)
    : (f.after turn).Unrefused := by
  have next := h.after turn
  intro t member e decided
  rcases h.consistent.decides turn member decided with
    ⟨earlier, old, -, refused⟩ | ⟨notices, effect⟩
  · exact before earlier old e refused
  · have failed := congrArg Effect.result effect
    have idle := t.request.orderly_opening.effect_error failed
    have same : (f.after turn).market.store = f.market.store :=
      congrArg Effect.store (effect.symm.trans idle)
    have mayEnd := (next.bound t member).mayEnd f.market decided
    have alive : t.rest? ≠ none := by
      intro gone
      rw [Task.verdict?, gone] at decided
      cases decided
    refine t.request.result_opening h.consistent.sound h.chained (same ▸ growing) ?_ e failed
    intro kind creates
    cases number : t.drawn.uuid kind with
    | none =>
        obtain ⟨other, ruled⟩ := mayEnd.drew kind creates number
        cases ruled
    | some uuid =>
        have spares : uuid ∈ t.spare kind := by
          rw [Task.spare_of_not_ok alive (by simp [decided]), number]
          exact List.mem_singleton_self uuid
        have unknown := next.thrifty.unknown (fresh kind) member spares
        rw [same] at unknown
        simpa only [Drawn.given, number, Option.getD_some] using unknown

/-- The store refuses no task as long as numbers are fresh and versions may grow, by
induction on the schedule from its end.
-/
theorem Regular.unrefused (h : f.Regular) (before : f.Unrefused) (schedule : List Turn)
    (fresh : (f.run schedule).Fresh) (growing : (f.run schedule).market.store.Growing)
    : (f.run schedule).Unrefused := by
  induction schedule using List.reverseRecOn with
  | nil => exact before
  | append_singleton earlier turn ih =>
      rw [run_append, run_cons, run_nil] at fresh growing ⊢
      have regular := h.run earlier
      have unrefused := ih (regular.fresh_before fresh) (regular.growing_before growing)
      exact regular.unrefused_after unrefused turn fresh growing

/-- Whatever tasks do at the same time, the store refuses none of their writes, as long as no
identifier was drawn twice and no version has reached the greatest one; and nothing refuses a
task that closes a row or resolves bids any more once it has read the clock, right before it
closes and resolves them.
-/
theorem never_refused (clock : Instant) (threshold : Nat) (outlet : Outlet)
    (source : IdKind → Nat → Uuid) (schedule : List Turn)
    (fresh : ((start clock threshold outlet source).run schedule).Fresh)
    (growing : ((start clock threshold outlet source).run schedule).market.store.Growing)
    : ∀ t ∈ ((start clock threshold outlet source).run schedule).tasks,
        (∀ e, t.verdict? ≠ some (.error (.store e)))
        ∧ (t.command.resolves = true → t.drawn.instant ≠ none
          → ∀ failure, t.verdict? ≠ some (.error failure)) := by
  intro t member
  have regular := regular_start clock threshold outlet source
  have unrefused := regular.unrefused (fun _ member => absurd member List.not_mem_nil)
    schedule fresh growing
  refine ⟨unrefused t member, ?_⟩
  intro resolves read failure decided
  cases failure with
  | store e => exact unrefused t member e decided
  | market e =>
      have bound := (regular.run schedule).bound t member
      have market := (start clock threshold outlet source).market
      exact (bound.mayEnd market decided).read resolves read e rfl

namespace Sample

/-- A bid on a listed instrument is accepted and rejected at the same time. -/
def contested : List Turn :=
  inTurn (acceptances.take 4)
    ++ .request (.acceptBid ⟨⟨0⟩⟩ seller) :: .request (.rejectBid ⟨⟨0⟩⟩ seller)
    :: (List.replicate 16 [.step 4, .step 5]).flatten

end Sample

/-- Of an acceptance and a rejection of the same bid the one that comes first to read the
clock is not refused, and the other one is refused by a rule and not by the store.
-/
theorem never_refused_contested
    : let f := Sample.opened.run Sample.contested
      f.Fresh ∧ f.market.store.Growing
      ∧ (∃ t ∈ f.tasks, t.command.resolves = true ∧ t.drawn.instant ≠ none
          ∧ ∀ failure, t.verdict? ≠ some (.error failure))
      ∧ ∃ t ∈ f.tasks, t.verdict? = some (.error (.market (.notPending ⟨⟨0⟩⟩ .selected)))
          ∧ ∀ e, t.verdict? ≠ some (.error (.store e)) := by
  have fresh : decide (Sample.opened.run Sample.contested).Fresh = true := by cbv
  have growing : decide (Sample.opened.run Sample.contested).market.store.Growing = true := by
    cbv
  have accepted : (Sample.opened.run Sample.contested).tasks.any (fun t =>
      t.command.resolves && decide (t.drawn.instant ≠ none)) = true := by cbv
  have rejected : (Sample.opened.run Sample.contested).tasks.any (fun t =>
      decide (t.verdict? = some (.error (.market (.notPending ⟨⟨0⟩⟩ .selected))))) = true := by
    cbv
  have never := never_refused Market.Sample.newYear 1 .unbounded
    (fun _ n => ⟨BitVec.ofNat 128 n⟩) Sample.contested
  rw [← Sample.opened] at never
  have never := never (of_decide_eq_true fresh) (of_decide_eq_true growing)
  dsimp only
  refine ⟨of_decide_eq_true fresh, of_decide_eq_true growing, ?_, ?_⟩
  · obtain ⟨t, member, test⟩ := List.any_eq_true.1 accepted
    obtain ⟨resolves, read⟩ := Bool.and_eq_true_iff.1 test
    have read := of_decide_eq_true read
    exact ⟨t, member, resolves, read, (never t member).2 resolves read⟩
  · obtain ⟨t, member, test⟩ := List.any_eq_true.1 rejected
    exact ⟨t, member, of_decide_eq_true test, (never t member).1⟩

end Floor

end DebtMarket
