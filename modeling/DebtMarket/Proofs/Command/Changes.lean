import DebtMarket.Proofs.Command.Performs
import DebtMarket.Proofs.Policy
import DebtMarket.Proofs.Store.Access
import DebtMarket.Proofs.Store.Evolution

/-! What commands create and change. For every kind of record there is one relation for what
a command creates and one for what it makes of a stored record, both with what had to hold for
it. Over the write of a command every table evolves by these relations alone, so whatever is
said about the history of a record follows from them.
-/

namespace DebtMarket

namespace Command

/-- The instruments that a command creates. -/
inductive Drafts : Command → Instrument → Prop
  | draft {actor terms now make id}
    (checked : Instrument.draft terms actor.company actor.user now = .ok make)
    : Drafts (.createDraft actor terms) (make id)

/-- What a command makes of an instrument: an edit of its terms or a move. -/
inductive AltersInstrument : Command → Instrument → Instrument → Prop
  | edit {actor update x x' now} (issuer : actor.company = x.issuer)
    (applied : x.applyUpdate update now = .ok x')
    : AltersInstrument (.updateDraft x.id actor update) x x'
  | move {actor x target now}
    (listed : target ∈ Policy.instrumentMoves (actor.standing x.issuer) x.status)
    : AltersInstrument (.moveInstrument x.id target actor) x (x.moveTo target now)

/-- The listings that a command creates on a store. -/
inductive Lists (s : Store) : Command → Listing → Prop
  | start {instrument actor x now id} (stored : s.instruments.get? instrument = some x)
    : Lists s (.createListing instrument actor) (Listing.start instrument actor now id)

/-- What a command makes of a listing: a move. -/
inductive AltersListing : Command → Listing → Listing → Prop
  | move {actor x target now}
    (listed : target ∈ Policy.listingMoves (actor.standing x.seller) x.status)
    : AltersListing (.transitionListing x.id target actor) x (x.moveTo target now)

/-- The bids that a command creates on a store: bids on a listing of another company. -/
inductive Offers (s : Store) : Command → Bid → Prop
  | place {actor request listing amount now id}
    (stored : s.listings.get? request.listing = some listing)
    (foreign : actor.company ≠ listing.seller)
    : Offers s (.placeBid actor request)
        (Bid.place request.listing actor amount request.currency request.validUntil now id)

/-- What a command makes of a bid on a store: a move, or the answer of the company that sells,
which accepts it, accepts another bid on its listing, or rejects it.
-/
inductive AltersBid (s : Store) : Command → Bid → Bid → Prop
  | move {actor b target now}
    (listed : target ∈ Policy.bidMoves (actor.standing b.bidder) b.status)
    : AltersBid s (.transitionBid b.id target actor) b (b.moveTo target now)
  | select {actor b listing now} (listed : s.listings.get? b.listing = some listing)
    (seller : actor.company = listing.seller) (pending : b.status = .pending)
    : AltersBid s (.acceptBid b.id actor) b (b.moveTo .selected now)
  | setAside {actor b chosen listing now} (stored : s.bids.get? chosen.id = some chosen)
    (other : b.id ≠ chosen.id) (same : b.listing = chosen.listing)
    (listed : s.listings.get? b.listing = some listing)
    (seller : actor.company = listing.seller) (pending : b.status = .pending)
    : AltersBid s (.acceptBid chosen.id actor) b (b.moveTo .notSelected now)
  | reject {actor b listing now} (listed : s.listings.get? b.listing = some listing)
    (seller : actor.company = listing.seller) (pending : b.status = .pending)
    : AltersBid s (.rejectBid b.id actor) b (b.moveTo .notSelected now)

/-- The asks that a command creates on a store: asks of the company that sells. -/
inductive Asks (s : Store) : Command → Ask → Prop
  | place {actor request listing terms now make id}
    (stored : s.listings.get? request.listing = some listing)
    (seller : actor.company = listing.seller)
    (made : Ask.place request.listing actor terms now = .ok make)
    : Asks s (.placeAsk actor request) (make id)

/-- What a command makes of an ask: a revision of its price or a move. -/
inductive AltersAsk : Command → Ask → Ask → Prop
  | revise {actor update a a' now} (asker : actor.company = a.asker)
    (applied : a.applyUpdate update now = .ok a')
    : AltersAsk (.updateAsk a.id actor update) a a'
  | move {actor a target now}
    (listed : target ∈ Policy.askMoves (actor.standing a.asker) a.status)
    : AltersAsk (.transitionAsk a.id target actor) a (a.moveTo target now)

variable {c : Command} {s s' : Store}

/-- Over the write of a command the instruments evolve by its drafts, edits and moves. -/
theorem Yields.instruments (h : c.Yields s s') (sound : s.Sound)
    : s.instruments.Evolves c.Drafts c.AltersInstrument s'.instruments := by
  obtain ⟨g, outcome, w, notice, performs, written⟩ := h
  cases Store.write_takes written with
  | instrument newer =>
      cases performs with
      | createDraft checked =>
          have new := (Instrument.draft_new checked (g.id .instrument)).2
          exact Table.evolves_first sound.instruments new newer (.draft checked)
      | updateDraft stored editable issuer nonempty applied =>
          obtain rfl := Table.get?_id stored
          obtain ⟨id, touched⟩ := Instrument.applyUpdate_touch applied
          have issuer := Actor.actsFor_iff.1 issuer
          exact Table.evolves_next stored id touched newer (.edit issuer applied)
      | moveInstrument stored other permitted =>
          obtain rfl := Table.get?_id stored
          have listed := Policy.mem_moves other permitted
          exact Table.evolves_next stored rfl rfl newer (.move listed)
  | _ => exact .refl _

/-- Over the write of a command the listings evolve by its listings and moves. -/
theorem Yields.listings (h : c.Yields s s') (sound : s.Sound)
    : s.listings.Evolves (c.Lists s) c.AltersListing s'.listings := by
  obtain ⟨g, outcome, w, notice, performs, written⟩ := h
  cases Store.write_takes written with
  | listing newer =>
      cases performs with
      | createListing stored owned owner unoffered =>
          exact Table.evolves_first sound.listings rfl newer (.start stored)
      | transitionListing stored other permitted unoffered =>
          obtain rfl := Table.get?_id stored
          have listed := Policy.mem_moves other permitted
          exact Table.evolves_next stored rfl rfl newer (.move listed)
  | _ => exact .refl _

/-- Over the write of a command the bids evolve by its offers, moves and answers. -/
theorem Yields.bids (h : c.Yields s s') (sound : s.Sound)
    : s.bids.Evolves (c.Offers s) (c.AltersBid s) s'.bids := by
  obtain ⟨g, outcome, w, notice, performs, written⟩ := h
  cases Store.write_takes written with
  | bid newer =>
      cases performs with
      | placeBid stored isOpen foreign checked =>
          have foreign := Actor.actsFor_eq_false.1 foreign
          exact Table.evolves_first sound.bids rfl newer (.place stored foreign)
      | transitionBid stored other listed isOpen permitted =>
          obtain rfl := Table.get?_id stored
          have listed := Policy.mem_moves other permitted
          exact Table.evolves_next stored rfl rfl newer (.move listed)
      | rejectBid stored pending listed isOpen seller reject =>
          obtain rfl := Table.get?_id stored
          obtain ⟨-, rfl⟩ := Bid.resolve_eq_ok.1 reject
          have seller := Actor.actsFor_iff.1 seller
          have pending := beq_iff_eq.1 pending
          exact Table.evolves_next stored rfl rfl newer (.reject listed seller pending)
  | bids newer =>
      cases performs with
      | @acceptBid _ actor b listing selected aside stored pending listed isOpen seller select
          others =>
          obtain rfl := Table.get?_id stored
          obtain ⟨-, rfl⟩ := Bid.resolve_eq_ok.1 select
          have seller := Actor.actsFor_iff.1 seller
          have pending := beq_iff_eq.1 pending
          refine Table.evolves_puts (Store.nodup_acceptance sound others) newer ?_
          intro a member
          rcases List.mem_cons.1 member with rfl | member
          · exact ⟨b, g.instant, stored, rfl, rfl, .select listed seller pending⟩
          · obtain ⟨other, found, same, apart, waits, rfl⟩ :=
              Store.of_setAside sound others member
            have listed := same ▸ listed
            have waits := beq_iff_eq.1 waits
            refine ⟨other, g.instant, found, rfl, rfl, ?_⟩
            exact .setAside stored apart same listed seller waits
  | _ => exact .refl _

/-- Over the write of a command the asks evolve by its asks, revisions and moves. -/
theorem Yields.asks (h : c.Yields s s') (sound : s.Sound)
    : s.asks.Evolves (c.Asks s) c.AltersAsk s'.asks := by
  obtain ⟨g, outcome, w, notice, performs, written⟩ := h
  cases Store.write_takes written with
  | ask newer =>
      cases performs with
      | placeAsk stored isOpen seller checked made =>
          have new := (Ask.place_new made (g.id .ask)).2.2
          have seller := Actor.actsFor_iff.1 seller
          exact Table.evolves_first sound.asks new newer (.place stored seller made)
      | transitionAsk stored other listed isOpen permitted =>
          obtain rfl := Table.get?_id stored
          have listed := Policy.mem_moves other permitted
          exact Table.evolves_next stored rfl rfl newer (.move listed)
      | updateAsk stored active listed isOpen asker applied =>
          obtain rfl := Table.get?_id stored
          obtain ⟨id, -, touched⟩ := Ask.applyUpdate_touch applied
          have asker := Actor.actsFor_iff.1 asker
          exact Table.evolves_next stored id touched newer (.revise asker applied)
  | _ => exact .refl _

end Command

end DebtMarket
