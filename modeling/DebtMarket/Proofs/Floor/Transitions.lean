import DebtMarket.Proofs.Command.Moves
import DebtMarket.Proofs.Floor.Offers
import DebtMarket.Proofs.Store.Rivals

/-! Transitions on the floor. However a floor was reached, at most one listing offers an
instrument at a time. So a move that would open another one is refused in the name of this
listing, and every move is decided by the same checks in the same order, whatever is moved.
-/

namespace DebtMarket

namespace Movable

variable {α σ : Type} {kind : IdKind}

/-- What a move comes to. -/
def effect (m : Movable α σ kind) (g : Given) (s : Store) (id : Id kind) (target : σ)
    (actor : Actor)
    : Effect Outcome :=
  (m.command id target actor).operation.effect g s

/-- A move fails with an error and does nothing. -/
def Refuses (m : Movable α σ kind) (g : Given) (s : Store) (id : Id kind) (target : σ)
    (actor : Actor) (e : MarketError)
    : Prop :=
  m.effect g s id target actor = .idle (.error (.market e)) s

/-- The listing that has to be open is so, if there has to be one. -/
def Listed (m : Movable α σ kind) (s : Store) (a : α) : Prop :=
  ∀ id, m.listing? a = some id → ∃ x, s.listings.get? id = some x ∧ x.status = .opened

theorem shut?_of_listed {m : Movable α σ kind} {s : Store} {a : α} (listed : m.Listed s a)
    : m.shut? s a = none := by
  rw [shut?]
  cases listing : m.listing? a with
  | none => rfl
  | some id =>
      obtain ⟨x, stored, opened⟩ := listed id listing
      simp [stored, opened]

/-- What is objected to an open listing is the policy or another listing. -/
theorem later_objection [Governed σ] [DecidableEq σ] {m : Movable α σ kind} {s : Store}
    {id : Id kind} {a : α} {target : σ} {actor : Actor} {e : MarketError}
    (h : (m.denied? a id target actor).or (m.taken? s a target) = some e)
    : (∃ reason, e = .forbidden (Governed.entity σ) id.uuid reason)
      ∨ ∃ instrument other, e = .alreadyOpen instrument other := by
  rw [denied?] at h
  split at h
  · rw [Option.none_or, taken?, Option.bind_eq_some_iff] at h
    obtain ⟨instrument, -, there⟩ := h
    obtain ⟨x, -, rfl⟩ := Option.map_eq_some_iff.1 there
    exact .inr ⟨instrument, x.id, rfl⟩
  · cases h
    exact .inl ⟨_, rfl⟩

/-- No objection is taken for the absence of the record, as a listing needs no other listing. -/
theorem objection_ne_absent [Governed σ] [DecidableEq σ] {m : Movable α σ kind} {s : Store}
    {id : Id kind} {a : α} {target : σ} {actor : Actor}
    (own : Governed.entity σ = .listing → m.listing? a = none)
    : m.objection? s a id target actor ≠ some (.notFound (Governed.entity σ) id.uuid) := by
  intro objected
  rw [objection?, shut?] at objected
  cases needed : m.listing? a with
  | none =>
      rw [needed, Option.bind_none, Option.none_or] at objected
      obtain ⟨_, ⟨⟩⟩ | ⟨_, _, ⟨⟩⟩ := later_objection objected
  | some listing =>
      have different : Governed.entity σ ≠ .listing := fun same => by
        rw [own same] at needed
        cases needed
      rw [needed, Option.bind_some] at objected
      cases found : s.listings.get? listing with
      | none =>
          rw [found, Option.elim_none, Option.some_or, Option.some.injEq] at objected
          exact different (MarketError.notFound.inj objected).1.symm
      | some x =>
          rw [found, Option.elim_some] at objected
          split at objected
          · obtain ⟨_, ⟨⟩⟩ | ⟨_, _, ⟨⟩⟩ := later_objection objected
          · cases objected

variable [Stored α kind] [Governed σ] [DecidableEq σ]

/-- How a move is decided, by one check after another. -/
structure Decides (m : Movable α σ kind) (g : Given) (s : Store) (id : Id kind) (target : σ)
    (actor : Actor)
    : Prop where
  absent
    : m.Refuses g s id target actor (.notFound (Governed.entity σ) id.uuid)
      ↔ (m.table s).get? id = none
  /-- A record that has the status already is returned as it is, and to find it is all that is
  asked or done. -/
  unchanged
    : ∀ a, (m.table s).get? id = some a
      → (m.effect g s id target actor = .idle (.ok (m.outcome a (m.status a))) s
          ∧ (m.command id target actor).operation.calls g s = [.query (m.query id)]
        ↔ m.status a = target)
  unlisted
    : ∀ a, (m.table s).get? id = some a → m.status a ≠ target
      → ∀ listing, m.listing? a = some listing
      → (m.Refuses g s id target actor (.notFound .listing listing.uuid)
        ↔ s.listings.get? listing = none)
  shut
    : ∀ a, (m.table s).get? id = some a → m.status a ≠ target
      → ∀ listing, m.listing? a = some listing → ∀ x, s.listings.get? listing = some x
      → (m.Refuses g s id target actor (.listingNotOpen listing x.status)
        ↔ x.status ≠ .opened)
  denied
    : ∀ a, (m.table s).get? id = some a → m.status a ≠ target → m.Listed s a
      → (m.Refuses g s id target actor
            (.forbidden (Governed.entity σ) id.uuid (m.denial a target actor))
        ↔ target ∉ Governed.moves (actor.standing (m.owner a)) (m.status a))
  /-- The record itself does not offer the instrument yet. -/
  taken
    : ∀ a, (m.table s).get? id = some a → m.status a ≠ target → m.Listed s a
      → target ∈ Governed.moves (actor.standing (m.owner a)) (m.status a)
      → ∀ instrument, m.offering? a target = some instrument
      → ∀ other, (m.Refuses g s id target actor (.alreadyOpen instrument other)
        ↔ s.Offers other instrument)
  moved
    : ∀ a, (m.table s).get? id = some a → m.status a ≠ target → m.Listed s a
      → target ∈ Governed.moves (actor.standing (m.owner a)) (m.status a)
      → (∀ instrument, m.offering? a target = some instrument
          → ∀ other, ¬s.Offers other instrument)
      → m.effect g s id target actor = m.success s a target g.instant

section Decides

variable {m : Movable α σ kind} {g : Given} {s : Store} {id : Id kind} {a : α} {target : σ}
  {actor : Actor}

/-- A move to another status is refused by the first objection, and by nothing else. -/
theorem refuses_iff
    (carried : m.effect g s id target actor = m.carryOut g s id target actor)
    (stored : (m.table s).get? id = some a) (other : m.status a ≠ target) (e : MarketError)
    : m.Refuses g s id target actor e ↔ m.objection? s a id target actor = some e := by
  rw [Refuses, carried]
  cases objection : m.objection? s a id target actor with
  | none =>
      rw [carryOut_success stored other objection]
      exact iff_of_false (by rintro ⟨⟩) (by rintro ⟨⟩)
  | some e' =>
      rw [carryOut_objection stored other objection]
      constructor
      · intro same
        cases same
        rfl
      · rintro ⟨⟩
        rfl

/-- A procedure that is followed decides as it should: each check is the first objection just
if those before it have passed.
-/
theorem decides_of_carried (sound : s.Sound) (unrivalled : s.Unrivalled)
    (own : Governed.entity σ = .listing → ∀ a, m.listing? a = none)
    (carried : m.effect g s id target actor = m.carryOut g s id target actor)
    (read
      : ∀ a, (m.table s).get? id = some a → m.status a = target
        → (m.command id target actor).operation.calls g s = [.query (m.query id)])
    : m.Decides g s id target actor := by
  refine {
    absent := ?_
    unchanged := fun a stored => ⟨fun done => ?_, fun same => ⟨?_, read a stored same⟩⟩
    unlisted := fun a stored other listing needed => ?_
    shut := fun a stored other listing needed x found => ?_
    denied := fun a stored other listed => ?_
    taken := fun a stored other listed permitted instrument offering listing => ?_
    moved := fun a stored other listed permitted free => ?_
  }
  · cases stored : (m.table s).get? id with
    | none => simp [Refuses, carried, carryOut_absent stored]
    | some a =>
        refine iff_of_false (fun refused => ?_) (Option.some_ne_none a)
        by_cases same : m.status a = target
        · rw [Refuses, carried, carryOut_same stored same] at refused
          cases refused
        · rw [refuses_iff carried stored same] at refused
          exact objection_ne_absent (own · a) refused
  · obtain ⟨idle, -⟩ := done
    by_contra other
    rw [carried] at idle
    cases objection : m.objection? s a id target actor with
    | none =>
        rw [carryOut_success stored other objection] at idle
        cases congrArg Effect.notices idle
    | some e =>
        rw [carryOut_objection stored other objection] at idle
        cases idle
  · rw [carried, carryOut_same stored same, same]
  · rw [refuses_iff carried stored other, objection?, shut?, needed, Option.bind_some]
    cases found : s.listings.get? listing with
    | none => simp
    | some x =>
        refine iff_of_false (fun objected => ?_) (Option.some_ne_none x)
        rw [Option.elim_some] at objected
        split at objected
        · obtain ⟨_, ⟨⟩⟩ | ⟨_, _, ⟨⟩⟩ := later_objection objected
        · cases objected
  · rw [refuses_iff carried stored other, objection?, shut?, needed, Option.bind_some, found,
      Option.elim_some]
    split
    · next opened =>
        refine iff_of_false (fun objected => ?_) fun closed => closed opened
        obtain ⟨_, ⟨⟩⟩ | ⟨_, _, ⟨⟩⟩ := later_objection objected
    · next closed => exact iff_of_true rfl closed
  · rw [refuses_iff carried stored other, objection?, shut?_of_listed listed, denied?]
    split
    · next permitted =>
        refine iff_of_false (fun objected => ?_) fun denied => denied permitted
        rw [Option.none_or, Option.none_or, taken?, Option.bind_eq_some_iff] at objected
        obtain ⟨instrument, -, there⟩ := objected
        obtain ⟨x, -, ⟨⟩⟩ := Option.map_eq_some_iff.1 there
    · next denied => exact iff_of_true rfl denied
  · rw [refuses_iff carried stored other, objection?, shut?_of_listed listed, denied?,
      if_pos permitted, taken?, offering, ← Store.openListing?_eq_some_iff sound unrivalled]
    simp
  · have none : m.objection? s a id target actor = none := by
      rw [objection?, shut?_of_listed listed, denied?, if_pos permitted, taken?,
        Option.none_or, Option.none_or, Option.bind_eq_none_iff]
      intro instrument offering
      rw [(Store.openListing?_eq_none_iff sound).2 (free instrument offering), Option.map_none]
    rw [carried, carryOut_success stored other none]

end Decides

end Movable

namespace Floor

/-- At most one listing offers an instrument on every floor that can be reached. -/
theorem Reachable.unrivalled {f : Floor} (h : f.Reachable) : f.market.store.Unrivalled := by
  obtain ⟨clock, threshold, outlet, source, schedule, rfl⟩ := h
  refine (consistent_start clock threshold outlet source).invariant ?_
    Store.unrivalled_empty schedule
  rintro s s' - ⟨g, c, outcome, w, notice, -, written⟩ unrivalled
  exact (Store.write_takes written).unrivalled unrivalled

/-- On every floor that can be reached and whose versions may grow, every move of an instrument,
a listing, a bid or an ask to any status by any actor is decided in the same way.
-/
theorem transitions_decided {f : Floor} (h : f.Reachable) (growing : f.market.store.Growing)
    (g : Given) (actor : Actor)
    : (∀ id target, Movable.instruments.Decides g f.market.store id target actor)
      ∧ (∀ id target, Movable.listings.Decides g f.market.store id target actor)
      ∧ (∀ id target, Movable.bids.Decides g f.market.store id target actor)
      ∧ ∀ id target, Movable.asks.Decides g f.market.store id target actor := by
  have sound := h.consistent.sound
  have unrivalled := h.unrivalled
  refine ⟨fun id target => ?_, fun id target => ?_, fun id target => ?_, fun id target => ?_⟩
  · refine Movable.decides_of_carried sound unrivalled (fun _ _ => rfl)
      (Movable.carried_instrument growing id target actor) fun x stored same => ?_
    exact same ▸ Movable.calls_instrument actor stored
  · refine Movable.decides_of_carried sound unrivalled (fun _ _ => rfl)
      (Movable.carried_listing growing id target actor) fun x stored same => ?_
    exact same ▸ Movable.calls_listing actor stored
  · refine Movable.decides_of_carried sound unrivalled (by rintro ⟨⟩)
      (Movable.carried_bid growing id target actor) fun b stored same => ?_
    exact same ▸ Movable.calls_bid actor stored
  · refine Movable.decides_of_carried sound unrivalled (by rintro ⟨⟩)
      (Movable.carried_ask growing id target actor) fun a stored same => ?_
    exact same ▸ Movable.calls_ask actor stored

namespace Sample

/-- An instrument is issued and listed, and the listing is closed by an administrator; then the
seller lists the instrument again.
-/
def relisting : Floor :=
  opened.run
    (inTurn
      (acceptances.take 3
        ++ [.transitionListing ⟨⟨0⟩⟩ .closed regulator, .createListing ⟨⟨0⟩⟩ seller]))

end Sample

/-- The closed listing is not opened again, as the later one offers the instrument. -/
theorem reopening_taken
    : Sample.relisting.Reachable ∧ Sample.relisting.market.store.Growing
      ∧ Movable.listings.Refuses ⟨Market.Sample.newYear, fun _ => ⟨0⟩⟩
          Sample.relisting.market.store ⟨⟨0⟩⟩ .opened Sample.regulator
          (.alreadyOpen ⟨⟨0⟩⟩ ⟨⟨1⟩⟩) := by
  have reachable : Sample.relisting.Reachable := ⟨_, _, _, _, _, rfl⟩
  have growing : decide Sample.relisting.market.store.Growing = true := by cbv
  have closed : ((Movable.listings.table Sample.relisting.market.store).get? ⟨⟨0⟩⟩).map
      (fun x => (x.status, x.instrument, x.seller))
        = some (.closed, ⟨⟨0⟩⟩, Sample.seller.company) := by cbv
  have later : (Sample.relisting.market.store.listings.get? ⟨⟨1⟩⟩).map
      (fun x => (x.status, x.instrument)) = some (.opened, ⟨⟨0⟩⟩) := by cbv
  obtain ⟨x, stored, facts⟩ := Option.map_eq_some_iff.1 closed
  obtain ⟨y, found, offers⟩ := Option.map_eq_some_iff.1 later
  simp only [Prod.mk.injEq] at facts offers
  have status : Movable.listings.status x = .closed := facts.1
  have offering : Movable.listings.offering? x .opened = some ⟨⟨0⟩⟩ := congrArg some facts.2.1
  have owner : Movable.listings.owner x = Sample.seller.company := facts.2.2
  have decides := (transitions_decided reachable (of_decide_eq_true growing)
    ⟨Market.Sample.newYear, fun _ => ⟨0⟩⟩ Sample.regulator).2.1 ⟨⟨0⟩⟩ .opened
  refine ⟨reachable, of_decide_eq_true growing, ?_⟩
  refine (decides.taken x stored ?_ (by rintro _ ⟨⟩) ?_ ⟨⟨0⟩⟩ offering ⟨⟨1⟩⟩).2 ⟨y, found, offers⟩
  · rw [status]
    decide
  · rw [status, owner]
    decide

end Floor

end DebtMarket
