import DebtMarket.Proofs.Command.Locality
import DebtMarket.Proofs.Floor.Selection
import DebtMarket.Proofs.Floor.Transitions
import DebtMarket.Proofs.Operation.RowOrder

/-! Commands that have nothing in common may go in any order. The footprint of a command is what
it is given or creates and what this belongs to; if the footprints of two commands have nothing
in common, then each has the same result before and after the other one, and both orders leave
the same records and the same ledger. So commands need to be locked against each other only
where their footprints meet. In whatever order the store goes through its rows meanwhile, this
shows at most in the order of bids that are equally old.
-/

namespace DebtMarket

namespace Command

/-- Two requests come to the same in either order: each has the same result and makes the same
known, and both orders leave stores that hold the same.
-/
structure Commute (c d : Command) (gc gc' gd gd' : Given) (s : Store) : Prop where
  result
    : (c.effect gc gc' (d.effect gd gd' s).store).result = (c.effect gc gc' s).result
  result'
    : (d.effect gd gd' (c.effect gc gc' s).store).result = (d.effect gd gd' s).result
  notices
    : (c.effect gc gc' (d.effect gd gd' s).store).notices = (c.effect gc gc' s).notices
  notices'
    : (d.effect gd gd' (c.effect gc gc' s).store).notices = (d.effect gd gd' s).notices
  store
    : (d.effect gd gd' (c.effect gc gc' s).store).store.Rearranged
        (c.effect gc gc' (d.effect gd gd' s).store).store

/-- Two requests come to the same in either order although the rows come in another order before
each request: the first order finds two stores and the second one two others, and what differs
is at most the order of bids that are equally old.
-/
structure CommuteRearranged (c d : Command) (gc gc' gd gd' : Given)
    (found found' found₁ found₁' : Store)
    : Prop where
  tells : (c.effect gc gc' found).Tells Outcome.Concur (c.effect gc gc' found₁')
  tells' : (d.effect gd gd' found').Tells Outcome.Concur (d.effect gd gd' found₁)
  store : (d.effect gd gd' found').store.Rearranged (c.effect gc gc' found₁').store

/-- Two requests come to the same in either order, in whatever order the rows come. -/
structure Independent (c d : Command) (gc gc' gd gd' : Given) (s : Store) : Prop
    extends Commute c d gc gc' gd gd' s where
  rearranged
    : ∀ found found' found₁ found₁', s.Rearranged found
        → (c.effect gc gc' found).store.Rearranged found'
        → s.Rearranged found₁
        → (d.effect gd gd' found₁).store.Rearranged found₁'
        → CommuteRearranged c d gc gc' gd gd' found found' found₁ found₁'

/-- Requests with footprints that have nothing in common come to the same in either order. -/
theorem commute_of_disjoint {c d : Command} {gc gc' gd gd' : Given} {s : Store}
    (sound : s.Sound) (unknown : c.creates? = some .bid → gc.uuid .bid ∉ s.uuids .bid)
    (unknown' : d.creates? = some .bid → gd.uuid .bid ∉ s.uuids .bid)
    (apart : List.Disjoint (c.footprint gc s) (d.footprint gd s))
    : c.Commute d gc gc' gd gd' s := by
  have keyed := sound.tables_keyed
  have reach {id : EntityId} (mine : s.Reach (c.footprint gc s) id)
      : ¬s.Reach (d.footprint gd s) id :=
    c.not_reach unknown unknown' apart mine
  have reach' {id : EntityId} (mine : s.Reach (d.footprint gd s) id)
      : ¬s.Reach (c.footprint gc s) id :=
    d.not_reach unknown' unknown (fun _ mine other => apart other mine) mine
  -- each request alone leaves the reach of the other one as it is
  obtain ⟨-, -, alone⟩ := c.effect_local gc' sound keyed fun _ _ => rfl
  obtain ⟨-, -, alone'⟩ := d.effect_local gd' sound keyed fun _ _ => rfl
  obtain ⟨result, notices, after⟩ := c.effect_local gc' sound alone'.keyed fun id mine =>
    (alone'.outside id (reach mine)).1
  obtain ⟨result', notices', after'⟩ := d.effect_local gd' sound alone.keyed fun id mine =>
    (alone.outside id (reach' mine)).1
  refine ⟨result, result', notices, notices', after'.keyed₁.rearranged after.keyed₁ fun id => ?_⟩
  by_cases mine : s.Reach (c.footprint gc s) id
  · rw [after.inside id mine, (after'.outside id (reach mine)).2]
  · rw [(after.outside id mine).2]
    by_cases other : s.Reach (d.footprint gd s) id
    · rw [after'.inside id other]
    · rw [(alone'.outside id other).1, (after'.outside id other).2, (alone.outside id mine).1]

/-- A request does the same on stores that hold the same, its sequel included. -/
theorem effect_concur (c : Command) (g g' : Given) {s s₁ : Store} (mirrors : s.Mirrors s₁)
    : (c.effect g g' s).Concur Outcome.Concur (c.effect g g' s₁) := by
  have opening := c.concur_opening.effect g mirrors
  refine opening.andThen fun outcome outcome₁ same => ?_
  simp only [c.sequel?_concur same]
  cases follows : c.sequel? outcome with
  | none => exact ⟨⟨.ok same, .nil⟩, opening.store⟩
  | some next =>
      obtain ⟨id, target, actor, t, -, -, -, rfl⟩ := sequel?_eq_some follows
      have issued := (recordIssuance id t.instrument.issuer).concur_opening.effect g' opening.store
      exact issued.andThen fun _ _ _ => ⟨⟨.ok same, .nil⟩, issued.store⟩

/-- Requests that come to the same in either order do so in whatever order the rows come. -/
theorem Commute.rearranged {c d : Command} {gc gc' gd gd' : Given}
    {s found found' found₁ found₁' : Store} (h : c.Commute d gc gc' gd gd' s)
    (mirrors : s.Mirrors s) (first : s.Rearranged found)
    (next : (c.effect gc gc' found).store.Rearranged found') (first₁ : s.Rearranged found₁)
    (next₁ : (d.effect gd gd' found₁).store.Rearranged found₁')
    : c.CommuteRearranged d gc gc' gd gd' found found' found₁ found₁' := by
  have effect := c.effect_concur gc gc' (mirrors.trans first)
  have effect' := d.effect_concur gd gd' (effect.store.trans next)
  have effect₁ := d.effect_concur gd gd' (mirrors.trans first₁)
  have effect₁' := c.effect_concur gc gc' (effect₁.store.trans next₁)
  -- on the store itself each request tells the same after the other one as before it
  have later : (c.effect gc gc' s).Tells Outcome.Concur (c.effect gc gc' found₁') := by
    constructor
    · exact h.result ▸ effect₁'.result
    · exact h.notices ▸ effect₁'.notices
  have later' : (d.effect gd gd' s).Tells Outcome.Concur (d.effect gd gd' found') := by
    constructor
    · exact h.result' ▸ effect'.result
    · exact h.notices' ▸ effect'.notices
  exact {
    tells := effect.toTells.symm.trans later
    tells' := later'.symm.trans effect₁.toTells
    store := effect'.store.same.symm.trans (h.store.trans effect₁'.store.same)
  }

end Command

namespace Floor

/-- On every floor, requests with footprints that have nothing in common come to the same in
either order, as long as no bid is stored yet under an identifier that is drawn for a new one;
and in whatever order the rows come before each of them, the results differ at most in the order
of bids that are equally old.
-/
theorem independent {f : Floor} (reachable : f.Reachable) {c d : Command}
    {gc gc' gd gd' : Given}
    (unknown : c.creates? = some .bid → gc.uuid .bid ∉ f.market.store.uuids .bid)
    (unknown' : d.creates? = some .bid → gd.uuid .bid ∉ f.market.store.uuids .bid)
    (apart
      : List.Disjoint (c.footprint gc f.market.store) (d.footprint gd f.market.store))
    : c.Independent d gc gc' gd gd' f.market.store := by
  have sound := reachable.consistent.sound
  have commute : c.Commute d gc gc' gd gd' f.market.store :=
    Command.commute_of_disjoint sound unknown unknown' apart
  have mirrors : f.market.store.Mirrors f.market.store :=
    ⟨sound.tables_keyed, reachable.unrivalled, .refl _⟩
  exact {
    toCommute := commute
    rearranged := fun _ _ _ _ first next first₁ next₁ =>
      commute.rearranged mirrors first next first₁ next₁
  }

namespace Sample

/-- A floor where a bid on an open listing waits for an answer. -/
def pending : Floor :=
  opened.run (inTurn (acceptances.take 4))

/-- What requests are given on this floor. -/
def given : Given :=
  ⟨Market.Sample.newYear, fun _ => ⟨9⟩⟩

/-- The seller accepts the bid. -/
def acceptance : Command :=
  .acceptBid ⟨⟨0⟩⟩ seller

/-- The seller hands the instrument over to the buyer. -/
def sale : Command :=
  .transfer ⟨⟨0⟩⟩ seller.company buyer.company .trade

end Sample

/-- A bid on a listing is accepted before or after the listed instrument is handed over. -/
theorem independent_sale
    : (Sample.acceptance.effect Sample.given Sample.given
          Sample.pending.market.store).result.isOk = true
      ∧ (Sample.sale.effect Sample.given Sample.given
          Sample.pending.market.store).result.isOk = true
      ∧ Sample.acceptance.Independent Sample.sale Sample.given Sample.given Sample.given
          Sample.given Sample.pending.market.store := by
  have reachable : Sample.pending.Reachable :=
    ⟨Market.Sample.newYear, 1, .unbounded, fun _ n => ⟨BitVec.ofNat 128 n⟩,
      Sample.inTurn (Sample.acceptances.take 4), rfl⟩
  refine ⟨by cbv, by cbv, independent reachable nofun nofun ?_⟩
  have bid : Sample.acceptance.footprint Sample.given Sample.pending.market.store
      = [.bid ⟨⟨0⟩⟩, .listing ⟨⟨0⟩⟩] := by cbv
  have instrument : Sample.sale.footprint Sample.given Sample.pending.market.store
      = [.instrument ⟨⟨0⟩⟩] := by rfl
  rw [bid, instrument]
  simp

end Floor

end DebtMarket
