import DebtMarket.Proofs.Command.Performs
import DebtMarket.Proofs.Event.Picture
import DebtMarket.Proofs.Ownership.Owner
import DebtMarket.Proofs.Record

/-! What commands make known of their changes. The store draws a picture too: the status of
every record and the owner of every instrument. A command that succeeds and makes a change
known has changed this picture just as its event tells, and the records that the event is
about were changed at its time; a command that makes nothing known has not changed the
picture.
-/

namespace DebtMarket

/-- The stored record of an identifier was last changed at a time, and meets a condition. -/
def Table.LastChanged {α : Type} {kind : IdKind} [Stored α kind] (t : Table α) (id : Id kind)
    (time : Instant) (p : α → Prop)
    : Prop :=
  ∃ a, t.find? id = some a ∧ (Stored.revision a).updatedAt = time ∧ p a

/-- The store agrees with the details of a change that was made at a time. -/
def Happening.Recorded (time : Instant) (s : Store) : Happening → Prop
  | instrumentCreated id issuer =>
      s.instruments.LastChanged id time fun x => x.issuer = issuer
  | instrumentStatusChanged id _ _ maturity =>
      s.instruments.LastChanged id time fun x => x.maturityStatus = maturity
  | ownershipIssued id row owner =>
      ∃ r, s.ledger.active? id = some r ∧ r.acquiredAt = time ∧ r.id = row
        ∧ r.owner = owner ∧ r.reason = .issuance
  | ownershipTransferred id row _ toOwner reason =>
      ∃ r, s.ledger.active? id = some r ∧ r.acquiredAt = time ∧ r.id = row
        ∧ r.owner = toOwner ∧ r.reason = reason
  | listingOpened id instrument seller =>
      s.listings.LastChanged id time fun x => x.instrument = instrument ∧ x.seller = seller
  | listingStatusChanged id _ _ => s.listings.LastChanged id time fun _ => True
  | bidPlaced id listing bidder =>
      s.bids.LastChanged id time fun b => b.listing = listing ∧ b.bidder = bidder
  | bidStatusChanged id listing _ _ => s.bids.LastChanged id time fun b => b.listing = listing
  | bidSelected id listing setAside =>
      ∀ other ∈ id :: setAside, s.bids.LastChanged other time fun b => b.listing = listing
  | askPlaced id listing => s.asks.LastChanged id time fun a => a.listing = listing
  | askStatusChanged id listing _ _ => s.asks.LastChanged id time fun a => a.listing = listing
  | askRevised id listing => s.asks.LastChanged id time fun a => a.listing = listing

namespace Store

/-- The status of every stored record, and the owner of every instrument. -/
def picture (s : Store) : Picture
  | .instrument id => (s.instruments.find? id).map Instrument.status
  | .owner id => s.owner? id
  | .listing id => (s.listings.find? id).map Listing.status
  | .bid id => (s.bids.find? id).map Bid.status
  | .ask id => (s.asks.find? id).map Ask.status

/-- An ask was changed otherwise than by being moved to another status. -/
def Revises (s s' : Store) (id : AskId) : Prop :=
  s'.asks.find? id ≠ s.asks.find? id ∧ s'.picture (.ask id) = s.picture (.ask id)

/-- A store has changed just as a change tells that was made known with its time. -/
structure Told (s : Store) (h : Happening) (time : Instant) (s' : Store) : Prop where
  agrees : h.Agrees s.picture
  picture : s'.picture = s.picture.after h
  recorded : h.Recorded time s'
  revises : ∀ id, s.Revises s' id ↔ h.revises? = some id

theorem picture_empty : empty.picture = .empty := by
  funext x
  cases x <;> rfl

variable {s s' : Store}

-----------------------------------------------------------------------------------------
-- How the picture changes with single records
-----------------------------------------------------------------------------------------

/-- A picture that shows a fact, and is the same elsewhere, is the one that learned it. -/
theorem picture_learn {n : News} (here : s'.picture n.subject = some n.fact)
    (elsewhere : ∀ x, x ≠ n.subject → s'.picture x = s.picture x)
    : s'.picture = s.picture.learn n := by
  funext x
  by_cases same : x = n.subject
  · subst same
    rw [here, Picture.learn, Function.update_self]
  · rw [elsewhere x same, Picture.learn, Function.update_of_ne same]

theorem picture_putInstrument (s : Store) (x : Instrument)
    : picture { s with instruments := s.instruments.put x }
      = s.picture.learn ⟨.instrument x.id, x.status⟩ := by
  refine picture_learn ?_ fun subject other => ?_
  · exact congrArg (Option.map _) (Table.find?_put_self s.instruments x)
  · cases subject with
    | instrument id =>
        exact congrArg (Option.map _)
          (Table.find?_put_other fun same => other (congrArg _ (Eq.symm same)))
    | _ => rfl

theorem picture_putListing (s : Store) (x : Listing)
    : picture { s with listings := s.listings.put x }
      = s.picture.learn ⟨.listing x.id, x.status⟩ := by
  refine picture_learn ?_ fun subject other => ?_
  · exact congrArg (Option.map _) (Table.find?_put_self s.listings x)
  · cases subject with
    | listing id =>
        exact congrArg (Option.map _)
          (Table.find?_put_other fun same => other (congrArg _ (Eq.symm same)))
    | _ => rfl

theorem picture_putBid (s : Store) (b : Bid)
    : picture { s with bids := s.bids.put b } = s.picture.learn ⟨.bid b.id, b.status⟩ := by
  refine picture_learn ?_ fun subject other => ?_
  · exact congrArg (Option.map _) (Table.find?_put_self s.bids b)
  · cases subject with
    | bid id =>
        exact congrArg (Option.map _)
          (Table.find?_put_other fun same => other (congrArg _ (Eq.symm same)))
    | _ => rfl

theorem picture_putAsk (s : Store) (a : Ask)
    : picture { s with asks := s.asks.put a } = s.picture.learn ⟨.ask a.id, a.status⟩ := by
  refine picture_learn ?_ fun subject other => ?_
  · exact congrArg (Option.map _) (Table.find?_put_self s.asks a)
  · cases subject with
    | ask id =>
        exact congrArg (Option.map _)
          (Table.find?_put_other fun same => other (congrArg _ (Eq.symm same)))
    | _ => rfl

/-- Bids that are put in together are learned one after another, by induction on them. -/
theorem picture_putBids (s : Store) (bids : List Bid)
    : picture { s with bids := bids.foldl Table.put s.bids }
      = (bids.map fun b => News.mk (.bid b.id) b.status).foldl Picture.learn s.picture := by
  induction bids generalizing s with
  | nil => rfl
  | cons b rest ih =>
      have later := ih { s with bids := s.bids.put b }
      rw [picture_putBid] at later
      exact later

/-- A new owner of an instrument is learned. -/
theorem picture_owner {l : Ledger} {row : Ownership}
    (active : ∀ id, l.active? id = if row.instrument = id then some row else s.ledger.active? id)
    : picture { s with ledger := l } = s.picture.learn ⟨.owner row.instrument, row.owner⟩ := by
  refine picture_learn ?_ fun subject other => ?_
  · exact congrArg (Option.map _) ((active row.instrument).trans (if_pos rfl))
  · cases subject with
    | owner id =>
        exact congrArg (Option.map _)
          ((active id).trans (if_neg fun same => other (congrArg _ (Eq.symm same))))
    | _ => rfl

/-- No ask is revised when all asks stay. -/
theorem not_revises (same : s'.asks = s.asks) (id : AskId) : ¬s.Revises s' id :=
  fun revises => revises.1 (by rw [same])

/-- What is revised does not depend on anything but the asks. -/
theorem revises_congr {s₁ : Store} (same : s'.asks = s₁.asks) (id : AskId)
    : s.Revises s' id ↔ s.Revises s₁ id := by
  have shown : s'.picture (.ask id) = s₁.picture (.ask id) :=
    congrArg (fun t => (t.find? id).map Ask.status) same
  rw [Revises, Revises, shown, same]

/-- An ask that is put in revises the one of its identifier, if that has the same status and
is not the same.
-/
theorem revises_putAsk {a : Ask} {id : AskId}
    : s.Revises { s with asks := s.asks.put a } id
      ↔ a.id = id ∧ s.asks.find? id ≠ some a
        ∧ (s.asks.find? id).map Ask.status = some a.status := by
  by_cases same : a.id = id
  · subst same
    have found : (s.asks.put a).find? a.id = some a := Table.find?_put_self s.asks a
    simp only [Revises, picture, found, true_and, Option.map_some]
    exact and_congr ne_comm eq_comm
  · have found : (s.asks.put a).find? id = s.asks.find? id := Table.find?_put_other same
    simp [Revises, found, same]

-----------------------------------------------------------------------------------------
-- What the picture shows of stored records
-----------------------------------------------------------------------------------------

theorem picture_instrument {id : InstrumentId} {x : Instrument}
    (stored : s.instruments.get? id = some x)
    : s.picture (.instrument id) = some x.status :=
  congrArg (Option.map _) (Table.get?_eq_some.1 stored).1

theorem picture_listing {id : ListingId} {x : Listing}
    (stored : s.listings.get? id = some x)
    : s.picture (.listing id) = some x.status :=
  congrArg (Option.map _) (Table.get?_eq_some.1 stored).1

theorem picture_bid {id : BidId} {b : Bid} (stored : s.bids.get? id = some b)
    : s.picture (.bid id) = some b.status :=
  congrArg (Option.map _) (Table.get?_eq_some.1 stored).1

theorem picture_ask {id : AskId} {a : Ask} (stored : s.asks.get? id = some a)
    : s.picture (.ask id) = some a.status :=
  congrArg (Option.map _) (Table.get?_eq_some.1 stored).1

end Store

/-- The acceptance of a bid has selected it and set aside all others that it tells of: they
were found among the bids on its listing, each of them once.
-/
theorem Store.told_acceptance {s : Store} {b : Bid} {setAside : List Bid} {time : Instant}
    (sound : s.Sound) (stored : s.bids.get? b.id = some b) (pending : b.isPending = true)
    (others
      : ((s.bidsFor b.listing).filter fun other => other.id != b.id && other.isPending).mapM
          (fun other => other.setAside time) = .ok setAside)
    : s.Told (.bidSelected b.id b.listing (setAside.map Bid.id)) time
        { s with bids := (b.moveTo .selected time :: setAside).foldl Table.put s.bids } := by
  have once : (b.id :: setAside.map Bid.id).Nodup := nodup_acceptance sound others
  have ids : (b.moveTo .selected time :: setAside).map Bid.id = b.id :: setAside.map Bid.id :=
    rfl
  exact {
    agrees := ⟨once, fun id member => by
      rcases List.mem_cons.1 member with rfl | member
      · exact (picture_bid stored).trans (congrArg some (beq_iff_eq.1 pending))
      · obtain ⟨other, aside, rfl⟩ := List.mem_map.1 member
        obtain ⟨before, found, -, -, pending, rfl⟩ := of_setAside sound others aside
        exact (picture_bid found).trans (congrArg some (beq_iff_eq.1 pending))⟩
    picture := by
      rw [picture_putBids, Picture.after, Happening.news, List.map_cons, List.map_map]
      refine congrArg (List.foldl _ _) (congrArg _ (List.map_congr_left fun other member => ?_))
      obtain ⟨before, -, -, -, -, rfl⟩ := of_setAside sound others member
      rfl
    recorded := fun id member => by
      rw [← ids] at member once
      obtain ⟨other, written, rfl⟩ := List.mem_map.1 member
      refine ⟨other, Table.find?_puts_mem once written, ?_⟩
      rcases List.mem_cons.1 written with rfl | aside
      · exact ⟨rfl, rfl⟩
      · obtain ⟨before, -, offered, -, -, rfl⟩ := of_setAside sound others aside
        exact ⟨rfl, offered⟩
    revises := fun id => iff_of_false (not_revises rfl id) nofun
  }

namespace Performs

variable {g : Given} {s s' : Store} {c : Command} {outcome : Outcome} {w : Option Write}

/-- A command that makes nothing known has changed no status, no owner and no ask. -/
theorem untold (h : Performs g s c outcome w none) (wrote : s.Wrote w s')
    : s'.picture = s.picture ∧ s'.asks = s.asks := by
  cases h with
  | updateDraft stored editable issuer nonempty applied =>
      obtain ⟨same, -⟩ := Instrument.applyUpdate_touch applied
      obtain ⟨-⟩ := Store.write_takes wrote
      obtain rfl := Table.get?_id stored
      refine ⟨?_, rfl⟩
      rw [Store.picture_putInstrument, Picture.learn, Instrument.applyUpdate_status applied, same]
      exact Function.update_eq_self_iff.2 (Store.picture_instrument stored).symm
  | keepDraft | keepInstrument | keepListing | keepBid | keepAsk =>
      cases wrote
      exact ⟨rfl, rfl⟩

variable {h : Happening} {time : Instant}

/-- A command that makes a change known has made just this change, by cases on the way in
which it has succeeded.
-/
theorem told (performs : Performs g s c outcome w (some (h, time))) (wrote : s.Wrote w s')
    (sound : s.Sound) (chained : s.ledger.Chained)
    : s.Told h time s' := by
  have unrevised (same : s'.asks = s.asks) (other : h.revises? = none) (id : AskId)
      : s.Revises s' id ↔ h.revises? = some id := by
    rw [other]
    exact iff_of_false (Store.not_revises same id) nofun
  cases performs with
  | createDraft checked =>
      obtain ⟨-, revision⟩ := Instrument.draft_new checked (g.id .instrument)
      obtain ⟨newer⟩ := Store.write_takes wrote
      have absent := sound.instruments.find?_of_first revision newer
      exact {
        agrees := congrArg (Option.map _) absent
        picture := by
          rw [Store.picture_putInstrument, Instrument.draft_status checked]
          rfl
        recorded := ⟨_, Table.find?_put_self _ _, congrArg Revision.updatedAt revision, rfl⟩
        revises := unrevised rfl rfl
      }
  | moveInstrument stored other permitted =>
      obtain ⟨-⟩ := Store.write_takes wrote
      obtain rfl := Table.get?_id stored
      exact {
        agrees := ⟨Store.picture_instrument stored, other⟩
        picture := Store.picture_putInstrument s _
        recorded := ⟨_, Table.find?_put_self _ _, rfl, rfl⟩
        revises := unrevised rfl rfl
      }
  | recordIssuance unowned =>
      obtain ⟨l, inserted, rfl⟩ := Store.write_row_eq_ok.1 wrote
      have active := Ledger.active?_insert inserted rfl
      exact {
        agrees := congrArg (Option.map _) unowned
        picture := Store.picture_owner active
        recorded := ⟨_, (active _).trans (if_pos rfl), rfl, rfl, rfl, rfl⟩
        revises := unrevised rfl rfl
      }
  | transfer handed owned giver taker closed =>
      obtain ⟨l, transferred, rfl⟩ := Store.write_transfer_eq_ok.1 wrote
      obtain ⟨chained, -⟩ := chained.transfer transferred owned closed (Ne.symm taker) handed
      have active := Ledger.active?_transfer chained transferred
      subst giver
      exact {
        agrees := ⟨congrArg (Option.map _) owned, Ne.symm taker⟩
        picture := Store.picture_owner active
        recorded := ⟨_, (active _).trans (if_pos rfl), rfl, rfl, rfl, rfl⟩
        revises := unrevised rfl rfl
      }
  | createListing stored owned owner unoffered =>
      obtain ⟨checked, -, rfl⟩ := Store.write_listing_eq_ok.1 wrote
      have absent := sound.listings.find?_of_first rfl (Table.checkVersion_eq_ok.1 checked)
      exact {
        agrees := congrArg (Option.map _) absent
        picture := Store.picture_putListing s _
        recorded := ⟨_, Table.find?_put_self _ _, rfl, rfl, rfl⟩
        revises := unrevised rfl rfl
      }
  | transitionListing stored other permitted unoffered =>
      obtain ⟨-⟩ := Store.write_takes wrote
      obtain rfl := Table.get?_id stored
      exact {
        agrees := ⟨Store.picture_listing stored, other⟩
        picture := Store.picture_putListing s _
        recorded := ⟨_, Table.find?_put_self _ _, rfl, trivial⟩
        revises := unrevised rfl rfl
      }
  | placeBid stored isOpen foreign checked =>
      obtain ⟨t, saved, rfl⟩ := Store.write_bid_eq_ok.1 wrote
      obtain ⟨newer, rfl⟩ := Table.save_eq_ok.1 saved
      have absent := sound.bids.find?_of_first rfl newer
      exact {
        agrees := congrArg (Option.map _) absent
        picture := Store.picture_putBid s _
        recorded := ⟨_, Table.find?_put_self _ _, rfl, rfl, rfl⟩
        revises := unrevised rfl rfl
      }
  | transitionBid stored other listed isOpen permitted =>
      obtain ⟨-⟩ := Store.write_takes wrote
      obtain rfl := Table.get?_id stored
      exact {
        agrees := ⟨Store.picture_bid stored, other⟩
        picture := Store.picture_putBid s _
        recorded := ⟨_, Table.find?_put_self _ _, rfl, rfl⟩
        revises := unrevised rfl rfl
      }
  | @acceptBid _ _ b _ _ setAside stored pending listed isOpen seller select others =>
      obtain ⟨-⟩ := Store.write_takes wrote
      obtain ⟨-, rfl⟩ := Bid.resolve_eq_ok.1 select
      obtain rfl := Table.get?_id stored
      exact Store.told_acceptance sound stored pending others
  | rejectBid stored pending listed isOpen seller reject =>
      obtain ⟨pending, rfl⟩ := Bid.resolve_eq_ok.1 reject
      obtain ⟨-⟩ := Store.write_takes wrote
      obtain rfl := Table.get?_id stored
      have pending : _ = BidStatus.pending := beq_iff_eq.1 pending
      exact {
        agrees := ⟨Store.picture_bid stored, by rw [pending]; exact nofun⟩
        picture := Store.picture_putBid s _
        recorded := ⟨_, Table.find?_put_self _ _, rfl, rfl⟩
        revises := unrevised rfl rfl
      }
  | placeAsk stored isOpen seller checked made =>
      obtain ⟨-, listing, revision⟩ := Ask.place_new made (g.id .ask)
      obtain ⟨t, saved, rfl⟩ := Store.write_ask_eq_ok.1 wrote
      obtain ⟨newer, rfl⟩ := Table.save_eq_ok.1 saved
      have absent := sound.asks.find?_of_first revision newer
      exact {
        agrees := congrArg (Option.map _) absent
        picture := by
          rw [Store.picture_putAsk, Ask.place_status made]
          rfl
        recorded :=
          ⟨_, Table.find?_put_self _ _, congrArg Revision.updatedAt revision, listing⟩
        revises := fun id => by
          refine iff_of_false (fun revises => ?_) nofun
          obtain ⟨rfl, -, same⟩ := Store.revises_putAsk.1 revises
          cases (congrArg (Option.map _) absent).symm.trans same
      }
  | transitionAsk stored other listed isOpen permitted =>
      obtain ⟨-⟩ := Store.write_takes wrote
      obtain rfl := Table.get?_id stored
      exact {
        agrees := ⟨Store.picture_ask stored, other⟩
        picture := Store.picture_putAsk s _
        recorded := ⟨_, Table.find?_put_self _ _, rfl, rfl⟩
        revises := fun id => by
          refine iff_of_false (fun revises => ?_) nofun
          obtain ⟨rfl, -, same⟩ := Store.revises_putAsk.1 revises
          exact other (Option.some.inj ((Store.picture_ask stored).symm.trans same))
      }
  | @updateAsk _ _ _ a _ a' stored active listed isOpen asker applied =>
      obtain ⟨id, listing, revision⟩ := Ask.applyUpdate_touch applied
      obtain ⟨t, saved, rfl⟩ := Store.write_ask_eq_ok.1 wrote
      obtain ⟨newer, rfl⟩ := Table.save_eq_ok.1 saved
      obtain rfl := Table.get?_id stored
      have id : a'.id = a.id := id
      have active : a.status = .active := beq_iff_eq.1 active
      have known := Store.picture_ask stored
      have status := Ask.applyUpdate_status applied
      have found : (s.asks.put a').find? a.id = some a' := by
        rw [← id]
        exact Table.find?_put_self s.asks a'
      have differs : s.asks.find? a.id ≠ some a' := by
        intro same
        exact lt_irrefl _ (newer a' (id ▸ same : s.asks.find? a'.id = some a'))
      exact {
        agrees := known.trans (congrArg some active)
        picture := by
          rw [Store.picture_putAsk, Picture.learn, status, id]
          exact Function.update_eq_self_iff.2 known.symm
        recorded := ⟨a', found, congrArg Revision.updatedAt revision, listing⟩
        revises := fun other => by
          rw [Store.revises_putAsk, id]
          constructor
          · rintro ⟨rfl, -, -⟩
            rfl
          · intro same
            cases same
            exact ⟨rfl, differs, known.trans (congrArg some status.symm)⟩
      }

end Performs

end DebtMarket
