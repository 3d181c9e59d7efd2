import DebtMarket.Proofs.Command.Admission

/-! Moves from one status to another. Instruments, listings, bids and asks are moved by commands
of their own, which read what they move once or twice, under one lock or two; and yet they all
follow one procedure. A record that is not there is not found, and one that has the status
already is left alone, whoever asks. Otherwise the listing of a bid or an ask has to be open,
then the policy has to allow the move, and a listing that is opened must be the only one that
offers its instrument. A move that nothing objects to changes the one record and is made known.
-/

namespace DebtMarket

namespace Table

variable {α : Type} {kind : IdKind} [Stored α kind]

/-- The table with a record in the place of the one of its identifier. -/
def replace (t : Table α) (a : α) : Table α :=
  ⟨t.rows.map fun b => if Stored.id b = Stored.id a then a else b⟩

variable {t : Table α} {a b : α} {now : Instant}

/-- A stored record is moved one version on, if versions may grow. -/
theorem Growing.touch_eq_next (growing : t.Growing) {id : Id kind} (stored : t.get? id = some b)
    (now : Instant)
    : (Stored.revision b).touch now = (Stored.revision b).next now := by
  have below := growing b (find?_mem (get?_eq_some.1 stored).1)
  exact Revision.touch_eq_next (UInt64.lt_iff_toNat_lt.2 below)

/-- A record that is one version on is newer than the stored one, and is put in its place. -/
theorem Growing.replaces (growing : t.Growing) (stored : t.get? (Stored.id b) = some b)
    (same : Stored.id a = Stored.id b) (next : Stored.revision a = (Stored.revision b).next now)
    : (∀ c, t.find? (Stored.id a) = some c → version c < version a)
      ∧ t.put a = t.replace a := by
  rw [← growing.touch_eq_next stored now] at next
  refine ⟨growing.newer stored same next, congrArg mk (put_rows_of_some (b := b) ?_)⟩
  rw [same]
  exact (get?_eq_some.1 stored).1

end Table

/-- Records of a kind that are moved from one status to another: how a move is asked for, what
it depends on, and what it changes.
-/
structure Movable (α σ : Type) (kind : IdKind) where
  command : Id kind → σ → Actor → Command
  query : Id kind → Query
  table : Store → Table α
  /-- The store with another table for the records. -/
  withTable : Store → Table α → Store
  status : α → σ
  owner : α → CompanyId
  /-- The listing that has to be open when a record is moved. -/
  listing? : α → Option ListingId
  /-- The instrument that a record offers once it has a status. -/
  offering? : α → σ → Option InstrumentId
  /-- The record in another status, one version later. -/
  moved : α → σ → Instant → α
  /-- The outcome of a move that left a record as it is now, from the status it had before. -/
  outcome : α → σ → Outcome
  /-- What is made known of such a move. -/
  told : α → σ → Happening

namespace Movable

def instruments : Movable Instrument InstrumentStatus .instrument where
  command := .moveInstrument
  query := .instrument
  table := Store.instruments
  withTable s instruments := { s with instruments }
  status := Instrument.status
  owner := Instrument.issuer
  listing? _ := none
  offering? _ _ := none
  moved x target now :=
    {
      x with
      status := target,
      maturityStatus := if target = .active then .due else x.maturityStatus,
      revision := x.revision.next now
    }
  outcome x previous := .transition ⟨x, previous⟩
  told x previous := .instrumentStatusChanged x.id previous x.status x.maturityStatus

def listings : Movable Listing ListingStatus .listing where
  command := .transitionListing
  query := .listing
  table := Store.listings
  withTable s listings := { s with listings }
  status := Listing.status
  owner := Listing.seller
  listing? _ := none
  offering? x target := if target = .opened then some x.instrument else none
  moved x target now := { x with status := target, revision := x.revision.next now }
  outcome x _ := .listing x
  told x previous := .listingStatusChanged x.id previous x.status

def bids : Movable Bid BidStatus .bid where
  command := .transitionBid
  query := .bid
  table := Store.bids
  withTable s bids := { s with bids }
  status := Bid.status
  owner := Bid.bidder
  listing? b := some b.listing
  offering? _ _ := none
  moved b target now := { b with status := target, revision := b.revision.next now }
  outcome b _ := .bid b
  told b previous := .bidStatusChanged b.id b.listing previous b.status

def asks : Movable Ask AskStatus .ask where
  command := .transitionAsk
  query := .ask
  table := Store.asks
  withTable s asks := { s with asks }
  status := Ask.status
  owner := Ask.asker
  listing? a := some a.listing
  offering? _ _ := none
  moved a target now := { a with status := target, revision := a.revision.next now }
  outcome a _ := .ask a
  told a previous := .askStatusChanged a.id a.listing previous a.status

variable {α σ : Type} {kind : IdKind} [Stored α kind] [Governed σ] [DecidableEq σ]

/-- What is wrong with the listing that has to be open, if there has to be one. -/
def shut? (m : Movable α σ kind) (s : Store) (a : α) : Option MarketError :=
  (m.listing? a).bind fun id =>
    (s.listings.get? id).elim (some (.notFound .listing id.uuid)) fun x =>
      if x.status = .opened then none else some (.listingNotOpen id x.status)

/-- What an actor is told who may not move a record. -/
def denial (m : Movable α σ kind) (a : α) (target : σ) (actor : Actor) : String :=
  let standing := actor.standing (m.owner a)
  let entity : EntityKind := Governed.entity σ
  s!"{word standing} may not move {word entity} from {word (m.status a)} "
    ++ s!"to {word target}"

/-- Why the policy is against a move, if it is. -/
def denied? (m : Movable α σ kind) (a : α) (id : Id kind) (target : σ) (actor : Actor)
    : Option MarketError :=
  if target ∈ Governed.moves (actor.standing (m.owner a)) (m.status a) then none
  else some (.forbidden (Governed.entity σ) id.uuid (m.denial a target actor))

/-- The listing that stands in the way of a move, if there is one. -/
def taken? (m : Movable α σ kind) (s : Store) (a : α) (target : σ) : Option MarketError :=
  (m.offering? a target).bind fun instrument =>
    (s.openListing? instrument).map fun other => .alreadyOpen instrument other.id

/-- The first objection to a move of a record to another status. -/
def objection? (m : Movable α σ kind) (s : Store) (a : α) (id : Id kind) (target : σ)
    (actor : Actor)
    : Option MarketError :=
  (m.shut? s a).or ((m.denied? a id target actor).or (m.taken? s a target))

/-- What a move comes to that nothing objects to. -/
def success (m : Movable α σ kind) (s : Store) (a : α) (target : σ) (now : Instant)
    : Effect Outcome :=
  let moved := m.moved a target now
  ⟨.ok (m.outcome moved (m.status a)),
    m.withTable s ((m.table s).replace moved),
    [(m.told moved (m.status a), now)]⟩

/-- The procedure that every move follows. -/
def carryOut (m : Movable α σ kind) (g : Given) (s : Store) (id : Id kind) (target : σ)
    (actor : Actor)
    : Effect Outcome :=
  ((m.table s).get? id).elim
    (.idle (.error (.market (.notFound (Governed.entity σ) id.uuid))) s)
    fun a =>
      if m.status a = target then .idle (.ok (m.outcome a target)) s
      else
        (m.objection? s a id target actor).elim (m.success s a target g.instant)
          fun e => .idle (.error (.market e)) s

variable {m : Movable α σ kind} {g : Given} {s : Store} {id : Id kind} {a : α} {target : σ}
  {actor : Actor} {e : MarketError}

theorem carryOut_absent (absent : (m.table s).get? id = none)
    : m.carryOut g s id target actor
      = .idle (.error (.market (.notFound (Governed.entity σ) id.uuid))) s := by
  rw [carryOut, absent, Option.elim_none]

theorem carryOut_same (stored : (m.table s).get? id = some a) (same : m.status a = target)
    : m.carryOut g s id target actor = .idle (.ok (m.outcome a target)) s := by
  rw [carryOut, stored, Option.elim_some, if_pos same]

theorem carryOut_objection (stored : (m.table s).get? id = some a) (other : m.status a ≠ target)
    (objection : m.objection? s a id target actor = some e)
    : m.carryOut g s id target actor = .idle (.error (.market e)) s := by
  rw [carryOut, stored, Option.elim_some, if_neg other, objection, Option.elim_some]

theorem carryOut_success (stored : (m.table s).get? id = some a) (other : m.status a ≠ target)
    (none : m.objection? s a id target actor = none)
    : m.carryOut g s id target actor = m.success s a target g.instant := by
  rw [carryOut, stored, Option.elim_some, if_neg other, none, Option.elim_none]

/-- The objections to a move to another status are looked for one after another. -/
theorem carryOut_other (stored : (m.table s).get? id = some a) (other : m.status a ≠ target)
    : m.carryOut g s id target actor
      = (m.shut? s a).elim
          ((m.denied? a id target actor).elim
            ((m.taken? s a target).elim (m.success s a target g.instant)
              fun e => .idle (.error (.market e)) s)
            fun e => .idle (.error (.market e)) s)
          fun e => .idle (.error (.market e)) s := by
  rw [carryOut, stored, Option.elim_some, if_neg other, objection?]
  cases m.shut? s a with
  | some e => rfl
  | none => cases m.denied? a id target actor <;> rfl

end Movable

-----------------------------------------------------------------------------------------
-- What is required before a change
-----------------------------------------------------------------------------------------

namespace Operation

variable {α : Type} {g : Given} {s : Store}

/-- What was found is gone on from, and what was not is refused. -/
theorem effect_found_bind {β : Type} (found : Option β) (e : MarketError)
    (k : β → Operation α)
    : (orRefuse found e >>= k).effect g s
      = found.elim (.idle (.error (.market e)) s) fun b => (k b).effect g s := by
  cases found <;> rfl

theorem effect_requireInstrument_bind (id : InstrumentId) (k : Instrument → Operation α)
    : (requireInstrument id >>= k).effect g s
      = (s.instruments.get? id).elim
          (.idle (.error (.market (.notFound .instrument id.uuid))) s)
          fun x => (k x).effect g s := by
  rw [requireInstrument_eq, bind_assoc, effect_query_bind, effect_found_bind, Store.answer]

theorem effect_requireListing_bind (id : ListingId) (k : Listing → Operation α)
    : (requireListing id >>= k).effect g s
      = (s.listings.get? id).elim
          (.idle (.error (.market (.notFound .listing id.uuid))) s)
          fun x => (k x).effect g s := by
  rw [requireListing_eq, bind_assoc, effect_query_bind, effect_found_bind, Store.answer]

theorem effect_requireBid_bind (id : BidId) (k : Bid → Operation α)
    : (requireBid id >>= k).effect g s
      = (s.bids.get? id).elim
          (.idle (.error (.market (.notFound .bid id.uuid))) s)
          fun b => (k b).effect g s := by
  rw [requireBid_eq, bind_assoc, effect_query_bind, effect_found_bind, Store.answer]

theorem effect_requireAsk_bind (id : AskId) (k : Ask → Operation α)
    : (requireAsk id >>= k).effect g s
      = (s.asks.get? id).elim
          (.idle (.error (.market (.notFound .ask id.uuid))) s)
          fun a => (k a).effect g s := by
  rw [requireAsk_eq, bind_assoc, effect_query_bind, effect_found_bind, Store.answer]

/-- A move goes on if nothing is wrong with the listing that has to be open. -/
theorem effect_requireOpen_bind {β σ : Type} {kind : IdKind} (m : Movable β σ kind) (b : β)
    {id : ListingId} (listing : m.listing? b = some id) (k : PUnit → Operation α)
    : (discard (requireOpen id) >>= k).effect g s
      = (m.shut? s b).elim ((k ⟨⟩).effect g s) fun e => .idle (.error (.market e)) s := by
  rw [effect_discard_bind, requireOpen, bind_assoc, effect_requireListing_bind, Movable.shut?,
    listing, Option.bind_some]
  cases s.listings.get? id with
  | none => rfl
  | some x =>
      rw [Option.elim_some, Option.elim_some, Listing.isOpen]
      cases x.status <;> rfl

/-- A move goes on if no listing stands in its way. -/
theorem effect_requireUnoffered_bind {β σ : Type} {kind : IdKind} (m : Movable β σ kind) (b : β)
    (target : σ) {instrument : InstrumentId} (offering : m.offering? b target = some instrument)
    (k : Unit → Operation α)
    : (requireUnoffered instrument >>= k).effect g s
      = (m.taken? s b target).elim ((k ()).effect g s)
          fun e => .idle (.error (.market e)) s := by
  rw [requireUnoffered, bind_assoc, effect_query_bind, Store.answer, Movable.taken?, offering,
    Option.bind_some]
  cases s.openListing? instrument <;> rfl

/-- A move to another status goes on unless the policy is against it. -/
theorem effect_authorize_bind {β σ : Type} {kind : IdKind} [Governed σ] [DecidableEq σ]
    (m : Movable β σ kind) (b : β) (company : CompanyId) (current : σ) {target : σ}
    (owner : m.owner b = company) (status : m.status b = current) (other : current ≠ target)
    {id : Id kind} {actor : Actor} (k : PUnit → Operation α)
    : (discard (check (Policy.authorize (actor.standing company) id.uuid current target))
        >>= k).effect g s
      = (m.denied? b id target actor).elim ((k ⟨⟩).effect g s)
          fun e => .idle (.error (.market e)) s := by
  subst owner status
  rw [effect_discard_bind, effect_check_bind]
  unfold Policy.authorize Policy.evaluate Movable.denied?
  by_cases listed : target ∈ Governed.moves (actor.standing (m.owner b)) (m.status b)
  · simp [other, listed]
  · simp [other, listed, Movable.denial]

end Operation

namespace Effect

variable {α β γ : Type}

/-- What goes on from an effect goes on from it in either case. -/
theorem andThen_elim (o : Option γ) (e : Effect α) (f : γ → Effect α)
    (k : α → Store → Effect β)
    : (o.elim e f).andThen k = o.elim (e.andThen k) fun c => (f c).andThen k := by
  cases o <;> rfl

end Effect

namespace Movable

open Operation

variable {g : Given} {s : Store}

/-- An instrument is moved by the procedure; it is read once only. -/
theorem carried_instrument (growing : s.Growing) (id : InstrumentId) (target : InstrumentStatus)
    (actor : Actor)
    : (Command.moveInstrument id target actor).operation.effect g s
      = instruments.carryOut g s id target actor := by
  rw [Command.operation, effect_map, moveInstrument, effect_changing,
    effect_requireInstrument_bind]
  cases stored : s.instruments.get? id with
  | none => exact (carryOut_absent (m := instruments) stored).symm
  | some x =>
      obtain rfl := Table.get?_id stored
      simp only [Option.elim_some]
      by_cases same : x.status = target
      · rw [if_pos same, carryOut_same (m := instruments) stored same, same]
        rfl
      · obtain ⟨newer, replaced⟩ := growing.instruments.replaces
          (a := instruments.moved x target g.instant) stored rfl rfl
        have written := (Store.Takes.instrument newer).accepted
        have moved : x.moveTo target g.instant = instruments.moved x target g.instant :=
          congrArg (fun revision => { instruments.moved x target g.instant with revision })
            (growing.instruments.touch_eq_next stored g.instant)
        rw [replaced] at written
        rw [if_neg same, effect_authorize_bind instruments x x.issuer x.status rfl rfl same,
          carryOut_other (m := instruments) stored same]
        simp only [Effect.andThen_elim, Effect.andThen_idle_error, effect_now_bind,
          effect_save_bind, moved, written]
        rfl

/-- A listing is moved by the procedure: the second reading finds what the first one found. -/
theorem carried_listing (growing : s.Growing) (id : ListingId) (target : ListingStatus)
    (actor : Actor)
    : (Command.transitionListing id target actor).operation.effect g s
      = listings.carryOut g s id target actor := by
  rw [Command.operation, effect_map, transitionListing, effect_requireListing_bind]
  cases stored : s.listings.get? id with
  | none => exact (carryOut_absent (m := listings) stored).symm
  | some x =>
      obtain rfl := Table.get?_id stored
      rw [Option.elim_some]
      by_cases same : x.status = target
      · rw [if_pos same, carryOut_same (m := listings) stored same]
        rfl
      · obtain ⟨newer, replaced⟩ := growing.listings.replaces
          (a := listings.moved x target g.instant) stored rfl rfl
        have moved : x.moveTo target g.instant = listings.moved x target g.instant :=
          congrArg (fun revision => { x with status := target, revision })
            (growing.listings.touch_eq_next stored g.instant)
        rw [if_neg same, effect_changing, effect_locking, effect_requireListing_bind, stored,
          Option.elim_some]
        simp only [if_neg same]
        rw [effect_authorize_bind listings x x.seller x.status rfl rfl same,
          carryOut_other (m := listings) stored same]
        have shut : listings.shut? s x = none := rfl
        have free (unoffered : target = .opened → s.openListing? x.instrument = none) := by
          have written := (Store.Takes.listing newer fun offers => by
            simp only [Listing.offers, Bool.and_eq_true] at offers
            exact Store.rival?_eq_none (unoffered (beq_iff_eq.1 offers.1.2))).accepted
          rw [replaced] at written
          exact written
        simp only [Effect.andThen_elim, Effect.andThen_idle_error, shut, Option.elim_none]
        cases listings.denied? x (Stored.id x) target actor with
        | some e => rfl
        | none =>
            simp only [Option.elim_none]
            by_cases opened : target = .opened
            · subst opened
              have taken : listings.taken? s x .opened
                  = (s.openListing? x.instrument).map fun other =>
                      .alreadyOpen x.instrument other.id := rfl
              rw [if_pos rfl, effect_requireUnoffered_bind listings x .opened rfl, taken]
              cases unoffered : s.openListing? x.instrument with
              | some other => rfl
              | none =>
                  simp only [Option.map_none, Option.elim_none, effect_now_bind,
                    effect_save_bind, moved, free fun _ => unoffered]
                  rfl
            · have taken : listings.taken? s x target = none := by
                simp only [taken?, listings, if_neg opened, Option.bind_none]
              simp only [if_neg opened, taken, Option.elim_none, effect_now_bind,
                effect_save_bind, moved, free fun now => absurd now opened]
              rfl

/-- A bid is moved by the procedure: the second reading finds what the first one found. -/
theorem carried_bid (growing : s.Growing) (id : BidId) (target : BidStatus) (actor : Actor)
    : (Command.transitionBid id target actor).operation.effect g s
      = bids.carryOut g s id target actor := by
  rw [Command.operation, effect_map, transitionBid, effect_requireBid_bind]
  cases stored : s.bids.get? id with
  | none => exact (carryOut_absent (m := bids) stored).symm
  | some b =>
      obtain rfl := Table.get?_id stored
      rw [Option.elim_some]
      by_cases same : b.status = target
      · rw [if_pos same, carryOut_same (m := bids) stored same]
        rfl
      · obtain ⟨newer, replaced⟩ := growing.bids.replaces
          (a := bids.moved b target g.instant) stored rfl rfl
        have written := (Store.Takes.bid newer).accepted
        have moved : b.moveTo target g.instant = bids.moved b target g.instant :=
          congrArg (fun revision => { b with status := target, revision })
            (growing.bids.touch_eq_next stored g.instant)
        rw [replaced] at written
        rw [if_neg same, effect_changing, effect_requireBid_bind, stored, Option.elim_some]
        simp only [if_neg same]
        rw [effect_requireOpen_bind bids b rfl,
          effect_authorize_bind bids b b.bidder b.status rfl rfl same,
          carryOut_other (m := bids) stored same]
        simp only [Effect.andThen_elim, Effect.andThen_idle_error, effect_now_bind,
          effect_save_bind, moved, written]
        rfl

/-- An ask is moved by the procedure: the second reading finds what the first one found. -/
theorem carried_ask (growing : s.Growing) (id : AskId) (target : AskStatus) (actor : Actor)
    : (Command.transitionAsk id target actor).operation.effect g s
      = asks.carryOut g s id target actor := by
  rw [Command.operation, effect_map, transitionAsk, effect_requireAsk_bind]
  cases stored : s.asks.get? id with
  | none => exact (carryOut_absent (m := asks) stored).symm
  | some a =>
      obtain rfl := Table.get?_id stored
      rw [Option.elim_some]
      by_cases same : a.status = target
      · rw [if_pos same, carryOut_same (m := asks) stored same]
        rfl
      · obtain ⟨newer, replaced⟩ := growing.asks.replaces
          (a := asks.moved a target g.instant) stored rfl rfl
        have written := (Store.Takes.ask newer).accepted
        have moved : a.moveTo target g.instant = asks.moved a target g.instant :=
          congrArg (fun revision => { a with status := target, revision })
            (growing.asks.touch_eq_next stored g.instant)
        rw [replaced] at written
        rw [if_neg same, effect_changing, effect_requireAsk_bind, stored, Option.elim_some]
        simp only [if_neg same]
        rw [effect_requireOpen_bind asks a rfl,
          effect_authorize_bind asks a a.asker a.status rfl rfl same,
          carryOut_other (m := asks) stored same]
        simp only [Effect.andThen_elim, Effect.andThen_idle_error, effect_now_bind,
          effect_save_bind, moved, written]
        rfl

end Movable

-----------------------------------------------------------------------------------------
-- The calls of an operation
-----------------------------------------------------------------------------------------

namespace Operation

variable {α β : Type} {g : Given} {s : Store}

/-- The calls that an operation makes when nothing else happens meanwhile, in order. -/
def calls : Operation α → Given → Store → List Call
  | .done _, _, _ => []
  | .fail _, _, _ => []
  | .call .now next, g, s => .now :: (next g.instant).calls g s
  | .call (.draw kind) next, g, s => .draw kind :: (next (g.id kind)).calls g s
  | .call (.query q) next, g, s => .query q :: (next (s.answer q)).calls g s
  | .call (.write w) next, g, s =>
      .write w
        :: match s.write w with
            | .ok written => (next (.ok ())).calls g written
            | .error e => (next (.error e)).calls g s
  | .call (.publish happening time) next, g, s =>
      .publish happening time :: (next ()).calls g s
  | .lock _ next, g, s => next.calls g s
  | .unlock next, g, s => next.calls g s

@[simp]
theorem calls_pure (a : α) (g : Given) (s : Store) : (pure a : Operation α).calls g s = [] :=
  rfl

@[simp]
theorem calls_query_bind (q : Query) (k : q.Answer → Operation α) (g : Given) (s : Store)
    : (query q >>= k).calls g s = .query q :: (k (s.answer q)).calls g s :=
  rfl

/-- The calls of one operation after another, by induction on the first. -/
theorem calls_bind (p : Operation α) (f : α → Operation β) (g : Given) (s : Store)
    : (p.bind f).calls g s
      = p.calls g s
        ++ match (p.effect g s).result with
            | .ok a => (f a).calls g (p.effect g s).store
            | .error _ => [] := by
  induction p generalizing s with
  | done a => rfl
  | fail failure => rfl
  | lock scope next ih => exact ih s
  | unlock next ih => exact ih s
  | call c next ih =>
      cases c with
      | now => exact congrArg (List.cons _) (ih g.instant s)
      | draw kind => exact congrArg (List.cons _) (ih (g.id kind) s)
      | query q => exact congrArg (List.cons _) (ih (s.answer q) s)
      | write w =>
          simp only [Operation.bind, calls, effect]
          cases s.write w with
          | ok written => exact congrArg (List.cons _) (ih _ written)
          | error e => exact congrArg (List.cons _) (ih _ s)
      | publish happening time => exact congrArg (List.cons _) (ih () s)

/-- Giving up a lock at the end makes no other call, by induction on the operation. -/
theorem calls_releasing (p : Operation α) (g : Given) (s : Store)
    : p.releasing.calls g s = p.calls g s := by
  induction p generalizing s with
  | done a => rfl
  | fail failure => rfl
  | lock scope next ih => exact ih s
  | unlock next ih => exact ih s
  | call c next ih =>
      cases c with
      | now => exact congrArg (List.cons _) (ih g.instant s)
      | draw kind => exact congrArg (List.cons _) (ih (g.id kind) s)
      | query q => exact congrArg (List.cons _) (ih (s.answer q) s)
      | write w =>
          simp only [releasing, calls]
          cases s.write w with
          | ok written => exact congrArg (List.cons _) (ih _ written)
          | error e => exact congrArg (List.cons _) (ih _ s)
      | publish happening time => exact congrArg (List.cons _) (ih () s)

/-- A result that is renamed takes no other call. -/
theorem calls_map (f : α → β) (p : Operation α) (g : Given) (s : Store)
    : (f <$> p).calls g s = p.calls g s := by
  rw [map_eq, calls_bind]
  cases (p.effect g s).result <;> exact List.append_nil _

/-- A body that changes nothing makes the calls of a whole change. -/
theorem calls_changing {scope : Scope} {body : Operation (Change α)} {a : α}
    (silent : (body.effect g s).result = .ok (.silent a))
    : (changing scope body).calls g s = body.calls g s := by
  rw [changing_eq, calls, calls_bind, calls_releasing, effect_releasing, silent]
  exact List.append_nil _

end Operation

namespace Movable

open Operation

variable {g : Given} {s : Store}

/-- An instrument that has the status already is read, and nothing else is asked or done. -/
theorem calls_instrument {x : Instrument} {id : InstrumentId} (actor : Actor)
    (stored : s.instruments.get? id = some x)
    : (Command.moveInstrument id x.status actor).operation.calls g s
      = [.query (.instrument id)] := by
  rw [Command.operation, calls_map, moveInstrument, calls_changing (a := ⟨x, x.status⟩)]
  · rw [requireInstrument_eq, bind_assoc, calls_query_bind, Store.answer, stored]
    simp [orRefuse]
  · rw [effect_requireInstrument_bind, stored]
    simp

/-- A listing that has the status already is read once only. -/
theorem calls_listing {x : Listing} {id : ListingId} (actor : Actor)
    (stored : s.listings.get? id = some x)
    : (Command.transitionListing id x.status actor).operation.calls g s
      = [.query (.listing id)] := by
  rw [Command.operation, calls_map, transitionListing, requireListing_eq, bind_assoc,
    calls_query_bind, Store.answer, stored]
  simp [orRefuse]

/-- A bid that has the status already is read once only, and its listing is not. -/
theorem calls_bid {b : Bid} {id : BidId} (actor : Actor) (stored : s.bids.get? id = some b)
    : (Command.transitionBid id b.status actor).operation.calls g s = [.query (.bid id)] := by
  rw [Command.operation, calls_map, transitionBid, requireBid_eq, bind_assoc,
    calls_query_bind, Store.answer, stored]
  simp [orRefuse]

/-- An ask that has the status already is read once only, and its listing is not. -/
theorem calls_ask {a : Ask} {id : AskId} (actor : Actor) (stored : s.asks.get? id = some a)
    : (Command.transitionAsk id a.status actor).operation.calls g s = [.query (.ask id)] := by
  rw [Command.operation, calls_map, transitionAsk, requireAsk_eq, bind_assoc,
    calls_query_bind, Store.answer, stored]
  simp [orRefuse]

end Movable

end DebtMarket
