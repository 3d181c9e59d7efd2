import DebtMarket.Proofs.Floor.Selection
import DebtMarket.Proofs.Floor.Turns

/-! Acceptances. Of the bids on a listing that are pending at the same moment at most one is
ever selected, whatever happens afterwards: its acceptance sets the others aside, and no bid
becomes pending again. So of two acceptances on a listing one is of a bid that was placed
when the other one had been made.
-/

namespace DebtMarket

/-- A task has finished with the acceptance of a bid. -/
def Task.Accepted (t : Task) (id : BidId) (a : Acceptance) : Prop :=
  (∃ actor, t.request = .acceptBid id actor) ∧ t.stage = .finished (.ok (.acceptance a))

namespace Store

variable {s s' : Store} {listing : ListingId} {id other : BidId}

/-- If a command came to the acceptance of a bid, then this bid is selected. -/
def SelectsAccepted (c : Command) (result : Except Failure Outcome) (s : Store) : Prop :=
  ∀ id actor a, c = .acceptBid id actor → result = .ok (.acceptance a)
    → s.Selected a.selected.listing id

/-- A bid that was selected stays so. -/
theorem retains_selectsAccepted : Retains SelectsAccepted :=
  fun _ _ _ _ sound yields selects id actor a command result =>
    (yields.bids sound).stays_selected sound (selects id actor a command result)

/-- The acceptance of a bid leaves it selected: of the bids that are written only the first
one has its identifier.
-/
theorem establishes_selectsAccepted : Command.Establishes SelectsAccepted := by
  rintro c g s result s' notices effect id actor a command rfl
  rcases c.effect_opening g s with ⟨failure, idle⟩ | ⟨outcome, w, notice, s₁, performs, wrote, ends⟩
  · rw [effect] at idle
    cases idle
  · rw [effect] at ends
    rw [command] at performs
    cases ends
    cases performs with
    | @acceptBid _ _ b _ selected setAside stored _ _ _ _ select others =>
        obtain ⟨-, rfl⟩ := Bid.resolve_eq_ok.1 select
        obtain rfl := Table.get?_id stored
        obtain ⟨-⟩ := write_takes wrote
        have apart : ∀ other ∈ setAside, other.id ≠ b.id := by
          intro other member
          obtain ⟨before, among, -, rfl⟩ := Bid.mem_setAside others member
          have tests := (List.mem_filter.1 among).2
          exact bne_iff_ne.1 (Bool.and_eq_true_iff.1 tests).1
        have live : Table.isLive (b.moveTo .selected g.instant) = true :=
          (Table.get?_eq_some.1 stored).2
        refine ⟨b.moveTo .selected g.instant, ?_, rfl, rfl⟩
        calc (setAside.foldl Table.put (s.bids.put (b.moveTo .selected g.instant))).get? b.id
            = (s.bids.put (b.moveTo .selected g.instant)).get? b.id :=
              Table.get?_puts_other apart
          _ = some (b.moveTo .selected g.instant) := Table.get?_put_self live

/-- Bids that were pending at the same time are no rivals. -/
theorem Pending.no_rivals (h : s.Pending listing id) : ¬s.Rivals listing id other := by
  rintro ⟨⟨b, found, -, selected⟩, -⟩
  obtain ⟨b', found', -, pending⟩ := h
  cases Option.some.inj (found.symm.trans found')
  rw [selected] at pending
  cases pending

end Store

namespace Floor

variable {f : Floor} {listing : ListingId} {id other : BidId}

/-- Bids that are pending at the same moment never become rivals, by induction on the
schedule: neither is placed after the other one was selected.
-/
theorem Consistent.no_rivals (h : f.Consistent) (differ : id ≠ other)
    (pending : f.market.store.Pending listing id)
    (pending' : f.market.store.Pending listing other) (schedule : List Turn)
    : ¬(f.run schedule).market.store.Rivals listing id other := by
  induction schedule using List.reverseRecOn generalizing id other with
  | nil => exact pending.no_rivals
  | append_singleton earlier turn ih =>
      intro rivals
      have consistent := h.run earlier
      rw [run_append, run_cons, run_nil] at rivals
      rcases (consistent.after_bids turn).rivals consistent.sound differ rivals with
        ⟨-, absent⟩ | before | before
      · obtain ⟨b, stored, -⟩ := pending'
        obtain ⟨b', found, -⟩ := (h.run_keeps earlier).bids.stays other b stored
        rw [absent] at found
        cases found
      · exact ih differ pending pending' before
      · exact ih differ.symm pending' pending before

/-- A bid whose acceptance a task has finished with is selected from then on. -/
theorem accepted_selected {clock : Instant} {threshold : Nat} {outlet : Outlet}
    {source : IdKind → Nat → Uuid} {moment : List Turn} {t : Task} {a : Acceptance}
    (member : t ∈ ((start clock threshold outlet source).run moment).tasks)
    (accepted : t.Accepted id a)
    : ((start clock threshold outlet source).run moment).market.store.Selected
        a.selected.listing id := by
  obtain ⟨⟨actor, request⟩, stage⟩ := accepted
  have decided := (consistent_start clock threshold outlet source).decided
    Store.establishes_selectsAccepted Store.retains_selectsAccepted
    (decided_start clock threshold outlet source) moment
  exact decided t member _ (verdict?_of_finished stage) id actor a
    (by rw [Task.command, request]; rfl) rfl

/-- Of the bids on a listing that are pending at one moment at most one is ever selected
afterwards; and of two bids on a listing that were both accepted one was placed when the
other one had been selected.
-/
theorem pending_selected_once (clock : Instant) (threshold : Nat) (outlet : Outlet)
    (source : IdKind → Nat → Uuid) (schedule : List Turn)
    : let floors moment := (start clock threshold outlet source).run moment
      let stores moment := (floors moment).market.store
      (∀ moment, moment <+: schedule → ∀ listing id other,
        (stores moment).Pending listing id → (stores moment).Pending listing other
        → ∀ later later', moment <+: later → later <+: schedule
          → moment <+: later' → later' <+: schedule
          → (stores later).Selected listing id → (stores later').Selected listing other
          → id = other)
      ∧ ∀ later later', later <+: schedule → later' <+: schedule
        → ∀ t ∈ (floors later).tasks, ∀ t' ∈ (floors later').tasks, ∀ id id' a a',
          t.Accepted id a → t'.Accepted id' a' → id ≠ id'
          → a.selected.listing = a'.selected.listing
          → ∃ moment, moment <+: schedule
              ∧ ((stores moment).Precedes a.selected.listing id id'
                ∨ (stores moment).Precedes a.selected.listing id' id) := by
  intro floors stores
  have initial := consistent_start clock threshold outlet source
  have consistent (moment : List Turn) : (floors moment).Consistent := initial.run moment
  have lasts {listing id moment} (reached : moment <+: schedule)
      (selected : (stores moment).Selected listing id)
      : (stores schedule).Selected listing id := by
    obtain ⟨rest, rfl⟩ := reached
    have stays := (consistent moment).run_selected selected rest
    rwa [← run_append] at stays
  constructor
  · intro moment reached listing id other pending pending' later later' _ past _ past'
      selected selected'
    by_contra differ
    obtain ⟨rest, rfl⟩ := reached
    have apart := (consistent moment).no_rivals differ pending pending' rest
    rw [← run_append] at apart
    exact apart ⟨lasts past selected, .inr (lasts past' selected')⟩
  · intro later later' past past' t member t' member' id id' a a' accepted accepted' differ
      listing
    have selected := lasts past (accepted_selected member accepted)
    have selected' := lasts past' (accepted_selected member' accepted')
    rw [← listing] at selected'
    have fresh (id : BidId)
        : ¬(start clock threshold outlet source).market.store.Selected
          a.selected.listing id := by
      rintro ⟨b, found, -⟩
      cases found
    exact initial.rivals fresh schedule differ ⟨selected, .inr selected'⟩

end Floor

end DebtMarket
