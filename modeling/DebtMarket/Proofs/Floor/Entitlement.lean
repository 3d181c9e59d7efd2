import DebtMarket.Proofs.Floor.Approval
import DebtMarket.Proofs.Floor.OrderBook
import DebtMarket.Proofs.Store.Entities

/-! Who may change what. A stored instrument, listing, bid or ask changes only by a command of
an actor who is entitled to that very change: by its standing to the company of the record, or
as the company that sells, when a bid is answered. So whoever is neither an administrator nor
one of the parties to a record never changes it, however long the market runs.
-/

namespace DebtMarket

namespace Store

/-- The companies that a record concerns: the one that it belongs to, and for a bid the one
that sells on its listing as well.
-/
def parties (s : Store) : Entity → List CompanyId
  | .instrument x => [x.issuer]
  | .listing x => [x.seller]
  | .bid b => b.bidder :: ((s.listings.get? b.listing).map Listing.seller).toList
  | .ask a => [a.asker]

end Store

/-- The actor of a command, if it has one. -/
def Command.actor? : Command → Option Actor
  | .createDraft actor _ | .updateDraft _ actor _ | .transitionInstrument _ _ actor
  | .moveInstrument _ _ actor | .createListing _ actor | .transitionListing _ _ actor
  | .placeBid actor _ | .transitionBid _ _ actor | .acceptBid _ actor | .rejectBid _ actor
  | .placeAsk actor _ | .transitionAsk _ _ actor | .updateAsk _ actor _ => some actor
  | .recordIssuance .. | .transfer .. => none

/-- The changes that an actor is entitled to, each with the command that makes it. -/
inductive Entitled (s : Store) (actor : Actor) : Command → Entity → Entity → Prop
  | editDraft {x x' update now} (issuer : actor.company = x.issuer) (draft : x.status = .draft)
    (applied : x.applyUpdate update now = .ok x')
    : Entitled s actor (.updateDraft x.id actor update) (.instrument x) (.instrument x')
  | submit {x now} (party : actor.company = x.issuer ∨ actor.Oversees x.issuer)
    (draft : x.status = .draft)
    : Entitled s actor (.moveInstrument x.id .pendingApproval actor) (.instrument x)
        (.instrument (x.moveTo .pendingApproval now))
  | decide {x target now} (overseer : actor.Oversees x.issuer)
    (pending : x.status = .pendingApproval) (decision : target = .active ∨ target = .rejected)
    : Entitled s actor (.moveInstrument x.id target actor) (.instrument x)
        (.instrument (x.moveTo target now))
  | withdrawListing {x now} (seller : actor.company = x.seller) (opened : x.status = .opened)
    : Entitled s actor (.transitionListing x.id .withdrawn actor) (.listing x)
        (.listing (x.moveTo .withdrawn now))
  | regulateListing {x target now} (overseer : actor.Oversees x.seller)
    (other : x.status ≠ target) (spared : ¬(x.status = .opened ∧ target = .withdrawn))
    (barred : ¬(x.status = .withdrawn ∧ target = .opened))
    : Entitled s actor (.transitionListing x.id target actor) (.listing x)
        (.listing (x.moveTo target now))
  | withdrawBid {b now} (bidder : actor.company = b.bidder) (pending : b.status = .pending)
    : Entitled s actor (.transitionBid b.id .withdrawn actor) (.bid b)
        (.bid (b.moveTo .withdrawn now))
  | suspendBid {b now} (overseer : actor.Oversees b.bidder)
    (live : b.status = .pending ∨ b.status = .withdrawn)
    : Entitled s actor (.transitionBid b.id .suspended actor) (.bid b)
        (.bid (b.moveTo .suspended now))
  | selectBid {b x now} (listed : s.listings.get? b.listing = some x)
    (seller : actor.company = x.seller) (pending : b.status = .pending)
    : Entitled s actor (.acceptBid b.id actor) (.bid b) (.bid (b.moveTo .selected now))
  | setBidAside {b chosen x now} (stored : s.bids.get? chosen.id = some chosen)
    (other : b.id ≠ chosen.id) (same : b.listing = chosen.listing)
    (listed : s.listings.get? b.listing = some x) (seller : actor.company = x.seller)
    (pending : b.status = .pending)
    : Entitled s actor (.acceptBid chosen.id actor) (.bid b) (.bid (b.moveTo .notSelected now))
  | rejectBid {b x now} (listed : s.listings.get? b.listing = some x)
    (seller : actor.company = x.seller) (pending : b.status = .pending)
    : Entitled s actor (.rejectBid b.id actor) (.bid b) (.bid (b.moveTo .notSelected now))
  | reviseAsk {a a' update now} (asker : actor.company = a.asker) (active : a.status = .active)
    (applied : a.applyUpdate update now = .ok a')
    : Entitled s actor (.updateAsk a.id actor update) (.ask a) (.ask a')
  | withdrawAsk {a now} (asker : actor.company = a.asker) (active : a.status = .active)
    : Entitled s actor (.transitionAsk a.id .withdrawn actor) (.ask a)
        (.ask (a.moveTo .withdrawn now))
  | suspendAsk {a now} (overseer : actor.Oversees a.asker)
    (live : a.status = .active ∨ a.status = .withdrawn)
    : Entitled s actor (.transitionAsk a.id .suspended actor) (.ask a)
        (.ask (a.moveTo .suspended now))
  | restoreAsk {a now} (overseer : actor.Oversees a.asker) (suspended : a.status = .suspended)
    : Entitled s actor (.transitionAsk a.id .active actor) (.ask a)
        (.ask (a.moveTo .active now))

/-- Who is entitled to a change is an administrator or one of the parties to the record. -/
theorem Entitled.party {s : Store} {actor : Actor} {c : Command} {e e' : Entity}
    (h : Entitled s actor c e e')
    : actor.role = .admin ∨ actor.company ∈ s.parties e := by
  cases h with
  | editDraft company | withdrawListing company | withdrawBid company | reviseAsk company
  | withdrawAsk company => exact .inr (by simp [Store.parties, company])
  | selectBid listed seller | rejectBid listed seller =>
      exact .inr (by simp [Store.parties, listed, seller])
  | setBidAside stored other same listed seller =>
      exact .inr (by simp [Store.parties, listed, seller])
  | submit party =>
      rcases party with issuer | overseer
      · exact .inr (by simp [Store.parties, issuer])
      · exact .inl overseer.1
  | decide overseer | regulateListing overseer | suspendBid overseer | suspendAsk overseer
  | restoreAsk overseer => exact .inl overseer.1

namespace Command

variable {c : Command} {s : Store}

theorem AltersInstrument.entitled {x x' : Instrument} (h : c.AltersInstrument x x')
    : ∃ actor, c.actor? = some actor
        ∧ Entitled s actor c (.instrument x) (.instrument x') := by
  cases h with
  | @edit actor _ _ _ _ issuer applied =>
      have draft := (Instrument.applyUpdate_fixed applied).1
      exact ⟨actor, rfl, .editDraft issuer draft applied⟩
  | @move actor x target now listed =>
      refine ⟨actor, rfl, ?_⟩
      rcases Policy.mem_instrumentMoves_iff.1 listed with
        ⟨insider, draft, rfl⟩ | ⟨admin, pending, decision⟩
      · refine .submit ?_ draft
        rw [← Actor.standing_eq_owner, ← Actor.standing_eq_admin]
        cases standing : actor.standing x.issuer with
        | owner => exact .inl rfl
        | admin => exact .inr rfl
        | outsider => exact absurd standing insider
      · exact .decide (Actor.standing_eq_admin.1 admin) pending decision

theorem AltersListing.entitled {x x' : Listing} (h : c.AltersListing x x')
    : ∃ actor, c.actor? = some actor ∧ Entitled s actor c (.listing x) (.listing x') := by
  cases h with
  | @move actor x target now listed =>
      refine ⟨actor, rfl, ?_⟩
      rcases Policy.mem_listingMoves_iff.1 listed with
        ⟨owner, opened, rfl⟩ | ⟨admin, other, spared, barred⟩
      · exact .withdrawListing (Actor.standing_eq_owner.1 owner) opened
      · exact .regulateListing (Actor.standing_eq_admin.1 admin) other spared barred

theorem AltersBid.entitled {b b' : Bid} (h : c.AltersBid s b b')
    : ∃ actor, c.actor? = some actor ∧ Entitled s actor c (.bid b) (.bid b') := by
  cases h with
  | @move actor b target now listed =>
      refine ⟨actor, rfl, ?_⟩
      rcases Policy.mem_bidMoves_iff.1 listed with
        ⟨owner, pending, rfl⟩ | ⟨admin, live, rfl⟩
      · exact .withdrawBid (Actor.standing_eq_owner.1 owner) pending
      · exact .suspendBid (Actor.standing_eq_admin.1 admin) live
  | @select actor _ _ _ listed seller pending =>
      exact ⟨actor, rfl, .selectBid listed seller pending⟩
  | @setAside actor _ _ _ _ stored other same listed seller pending =>
      exact ⟨actor, rfl, .setBidAside stored other same listed seller pending⟩
  | @reject actor _ _ _ listed seller pending =>
      exact ⟨actor, rfl, .rejectBid listed seller pending⟩

theorem AltersAsk.entitled {a a' : Ask} (h : c.AltersAsk a a')
    : ∃ actor, c.actor? = some actor ∧ Entitled s actor c (.ask a) (.ask a') := by
  cases h with
  | @revise actor _ _ _ _ asker applied =>
      have active := (Ask.applyUpdate_fixed applied).1
      exact ⟨actor, rfl, .reviseAsk asker active applied⟩
  | @move actor a target now listed =>
      refine ⟨actor, rfl, ?_⟩
      rcases Policy.mem_askMoves_iff.1 listed with
        ⟨owner, active, rfl⟩ | ⟨admin, ⟨live, rfl⟩ | ⟨suspended, rfl⟩⟩
      · exact .withdrawAsk (Actor.standing_eq_owner.1 owner) active
      · exact .suspendAsk (Actor.standing_eq_admin.1 admin) live
      · exact .restoreAsk (Actor.standing_eq_admin.1 admin) suspended

end Command

namespace Floor

/-- A turn commits a command of an actor who is entitled to what it makes of a record. -/
def Changes (f : Floor) (turn : Turn) (id : EntityId) (e : Entity) : Prop :=
  ∃ c actor e', f.Commits turn c ∧ c.actor? = some actor
    ∧ (f.after turn).market.store.entity? id = some e'
    ∧ Entitled f.market.store actor c e e'

variable {f : Floor} {turn : Turn} {e : Entity}

/-- A record of one kind stays, or becomes what an entitled actor makes of it, if all that
commands make of such records is what their actors are entitled to.
-/
theorem changes_of_evolves {α : Type} {kind : IdKind} [Stored α kind] {t t' : Table α}
    {wrap : α → Entity} {Made : α → Prop} {Turns : Command → α → α → Prop}
    (evolves : t.Evolves Made (fun a a' => ∃ c, f.Commits turn c ∧ Turns c a a') t')
    (entitled
      : ∀ c a a', Turns c a a' → ∃ actor, c.actor? = some actor
        ∧ Entitled f.market.store actor c (wrap a) (wrap a'))
    {id : Id kind} (found : (t.get? id).map wrap = some e)
    : (t'.get? id).map wrap = some e
      ∨ ∃ c actor e', f.Commits turn c ∧ c.actor? = some actor
          ∧ (t'.get? id).map wrap = some e' ∧ Entitled f.market.store actor c e e' := by
  obtain ⟨a, stored, rfl⟩ := Option.map_eq_some_iff.1 found
  have step := evolves id
  rw [stored] at step
  obtain ⟨a', next, how⟩ := step.of_some
  rw [next, Option.map_some]
  rcases how with rfl | ⟨-, c, commits, turns⟩
  · exact .inl rfl
  · obtain ⟨actor, acts, entitled⟩ := entitled c a a' turns
    exact .inr ⟨c, actor, wrap a', commits, acts, rfl, entitled⟩

/-- Over a turn a record stays, or is changed by an actor who is entitled to that: by cases on
what kind of record it is.
-/
theorem Consistent.after_entity (h : f.Consistent) (turn : Turn) {id : EntityId}
    (found : f.market.store.entity? id = some e)
    : (f.after turn).market.store.entity? id = some e ∨ f.Changes turn id e := by
  cases id with
  | instrument id =>
      have evolves := h.after_instruments turn
      exact changes_of_evolves evolves (fun _ _ _ alters => alters.entitled) found
  | listing id =>
      have evolves := h.after_listings turn
      exact changes_of_evolves evolves (fun _ _ _ alters => alters.entitled) found
  | bid id =>
      have evolves := h.after_offers turn
      exact changes_of_evolves evolves (fun _ _ _ alters => alters.entitled) found
  | ask id =>
      have evolves := h.after_asks turn
      exact changes_of_evolves evolves (fun _ _ _ alters => alters.entitled) found

/-- A turn leaves a record as it is if it commits the command of an actor who is neither an
administrator nor one of the parties to it.
-/
theorem Consistent.after_stranger (h : f.Consistent) {id : EntityId} {c : Command}
    {actor : Actor} (found : f.market.store.entity? id = some e) (commits : f.Commits turn c)
    (acts : c.actor? = some actor) (plain : actor.role ≠ .admin)
    (apart : actor.company ∉ f.market.store.parties e)
    : (f.after turn).market.store.entity? id = some e := by
  rcases h.after_entity turn found with same | ⟨c', actor', e', commits', acts', -, entitled⟩
  · exact same
  · cases commits.unique commits'
    cases acts.symm.trans acts'
    rcases entitled.party with admin | party
    · exact absurd admin plain
    · exact absurd party apart

/-- The parties to a record stay the same over every schedule: it never passes to another
company, and nor does the listing of a bid.
-/
theorem Consistent.run_parties (h : f.Consistent) (linked : f.market.store.Linked)
    {id : EntityId} (found : f.market.store.entity? id = some e) (later : List Turn)
    : ∃ e', (f.run later).market.store.entity? id = some e'
        ∧ (f.run later).market.store.parties e' = f.market.store.parties e := by
  cases id with
  | instrument id =>
      obtain ⟨x, stored, rfl⟩ := Option.map_eq_some_iff.1 found
      obtain ⟨x', last, same, -⟩ := h.run_instrument stored later
      refine ⟨.instrument x', by rw [Store.entity?, last, Option.map_some], ?_⟩
      exact congrArg (fun origin => [origin.2.1]) same
  | listing id =>
      obtain ⟨x, stored, rfl⟩ := Option.map_eq_some_iff.1 found
      obtain ⟨x', last, same⟩ := h.run_listing stored later
      refine ⟨.listing x', by rw [Store.entity?, last, Option.map_some], ?_⟩
      exact congrArg (fun origin => [origin.2.2.1]) same
  | bid id =>
      obtain ⟨b, stored, rfl⟩ := Option.map_eq_some_iff.1 found
      -- its seller is a party as well: the listing was stored along with the bid and stays
      obtain ⟨b', last, same⟩ := h.run_bid stored later
      obtain ⟨x, listed, -⟩ := linked.bids id b stored
      obtain ⟨x', listed', same'⟩ := h.run_listing listed later
      refine ⟨.bid b', by rw [Store.entity?, last, Option.map_some], ?_⟩
      have there : b'.listing = b.listing := congrArg (fun origin => origin.2.1) same
      have bidder : b'.bidder = b.bidder := congrArg (fun origin => origin.2.2.1) same
      have seller : x'.seller = x.seller := congrArg (fun origin => origin.2.2.1) same'
      simp only [Store.parties, there, bidder, listed, listed', Option.map_some, seller]
  | ask id =>
      obtain ⟨a, stored, rfl⟩ := Option.map_eq_some_iff.1 found
      obtain ⟨a', last, same⟩ := h.run_ask stored later
      refine ⟨.ask a', by rw [Store.entity?, last, Option.map_some], ?_⟩
      exact congrArg (fun origin => [origin.2.2.1]) same

/-- At every moment of a run from a market without records, the next turn leaves a record as it
is or commits the command of an actor who is entitled to what becomes of it; and whoever is
neither an administrator nor a party to a record that is stored at some moment changes it in no
turn that comes later.
-/
theorem changes_entitled (clock : Instant) (threshold : Nat) (outlet : Outlet)
    (source : IdKind → Nat → Uuid) (schedule : List Turn)
    : let floors moment := (start clock threshold outlet source).run moment
      let stores moment := (floors moment).market.store
      (∀ id e turn, (stores schedule).entity? id = some e
        → (stores (schedule ++ [turn])).entity? id = some e
          ∨ (floors schedule).Changes turn id e)
      ∧ ∀ id e later turn c actor, (stores schedule).entity? id = some e
        → (floors (schedule ++ later)).Commits turn c → c.actor? = some actor
        → actor.role ≠ .admin → actor.company ∉ (stores schedule).parties e
        → (stores (schedule ++ later ++ [turn])).entity? id
          = (stores (schedule ++ later)).entity? id := by
  intro floors stores
  have initial := consistent_start clock threshold outlet source
  have consistent : (floors schedule).Consistent := initial.run schedule
  have linked : (stores schedule).Linked := initial.run_linked Store.linked_empty schedule
  simp only [stores, floors, run_append]
  refine ⟨fun id e turn found => consistent.after_entity turn found, ?_⟩
  intro id e later turn c actor found commits acts plain apart
  obtain ⟨e', last, parties⟩ := consistent.run_parties linked found later
  rw [← parties] at apart
  have stays := (consistent.run later).after_stranger last commits acts plain apart
  exact stays.trans last.symm

end Floor

end DebtMarket
