import DebtMarket.Proofs.Store.Access

/-! Records of all kinds. The tables keep records of four kinds, each under an identifier of
its own. What is found under an identifier after a write is the record of it that was written,
or what was found before; and whatever an inquiry comes to is found under its identifier.
-/

namespace DebtMarket

/-- A record of the market, other than the rows of the ledger. -/
inductive Entity where
  | instrument (x : Instrument)
  | listing (x : Listing)
  | bid (b : Bid)
  | ask (a : Ask)
deriving DecidableEq, Repr

/-- What a record is stored under. -/
inductive EntityId where
  | instrument (id : InstrumentId)
  | listing (id : ListingId)
  | bid (id : BidId)
  | ask (id : AskId)
deriving DecidableEq, Repr

namespace Entity

/-- The identifier that a record is stored under. -/
def id : Entity → EntityId
  | instrument x => .instrument x.id
  | listing x => .listing x.id
  | bid b => .bid b.id
  | ask a => .ask a.id

/-- How often and when a record changed. -/
def revision : Entity → Revision
  | instrument x => x.revision
  | listing x => x.revision
  | bid b => b.revision
  | ask a => a.revision

/-- The number of changes that a record has seen, its creation included. -/
def version (e : Entity) : Nat :=
  e.revision.version.toNat

end Entity

/-- The records that a write stores. -/
def Write.entities : Write → List Entity
  | .instrument x => [.instrument x]
  | .listing x => [.listing x]
  | .bid b => [.bid b]
  | .bids written => written.map .bid
  | .ask a => [.ask a]
  | .row _ | .transfer .. => []

namespace Store

/-- The record that is stored under an identifier of some kind. -/
def entity? (s : Store) : EntityId → Option Entity
  | .instrument id => (s.instruments.get? id).map .instrument
  | .listing id => (s.listings.get? id).map .listing
  | .bid id => (s.bids.get? id).map .bid
  | .ask id => (s.asks.get? id).map .ask

/-- The record that is stored under an identifier of some kind, deleted or not. -/
def kept? (s : Store) : EntityId → Option Entity
  | .instrument id => (s.instruments.find? id).map .instrument
  | .listing id => (s.listings.find? id).map .listing
  | .bid id => (s.bids.find? id).map .bid
  | .ask id => (s.asks.find? id).map .ask

/-- A store with tables in which no two records share an identifier. -/
structure Keyed (s : Store) : Prop where
  instruments : s.instruments.Keyed
  listings : s.listings.Keyed
  bids : s.bids.Keyed
  asks : s.asks.Keyed

variable {s s' : Store} {w : Write} {e old : Entity} {id : EntityId}

theorem Sound.tables_keyed (h : s.Sound) : s.Keyed :=
  ⟨h.instruments.keyed, h.listings.keyed, h.bids.keyed, h.asks.keyed⟩

-----------------------------------------------------------------------------------------
-- What is found after a write
-----------------------------------------------------------------------------------------

/-- No write makes two records share an identifier. -/
theorem Takes.keyed (h : s.Takes w s') (keyed : s.Keyed) : s'.Keyed := by
  cases h with
  | instrument newer => exact { keyed with instruments := keyed.instruments.put _ }
  | listing newer alone => exact { keyed with listings := keyed.listings.put _ }
  | bid newer => exact { keyed with bids := keyed.bids.put _ }
  | bids newer => exact { keyed with bids := keyed.bids.puts _ }
  | ask newer => exact { keyed with asks := keyed.asks.put _ }
  | row inserted => exact { keyed with }
  | transfer transferred => exact { keyed with }

/-- Every record of a write has a greater version than the one that it replaces. -/
theorem Takes.newer (h : s.Takes w s') (member : e ∈ w.entities)
    (found : s.kept? e.id = some old)
    : old.version < e.version := by
  cases h with
  | instrument newer =>
      obtain rfl := List.mem_singleton.1 member
      obtain ⟨y, stored, rfl⟩ := Option.map_eq_some_iff.1 found
      exact newer y stored
  | listing newer alone =>
      obtain rfl := List.mem_singleton.1 member
      obtain ⟨y, stored, rfl⟩ := Option.map_eq_some_iff.1 found
      exact newer y stored
  | bid newer =>
      obtain rfl := List.mem_singleton.1 member
      obtain ⟨a, stored, rfl⟩ := Option.map_eq_some_iff.1 found
      exact newer a stored
  | bids newer =>
      obtain ⟨b, among, rfl⟩ := List.mem_map.1 member
      obtain ⟨a, stored, rfl⟩ := Option.map_eq_some_iff.1 found
      exact newer b among a stored
  | ask newer =>
      obtain rfl := List.mem_singleton.1 member
      obtain ⟨b, stored, rfl⟩ := Option.map_eq_some_iff.1 found
      exact newer b stored
  | row inserted => cases member
  | transfer transferred => cases member

/-- A record that a write stores is found afterwards, if the write stores no other one under
its identifier.
-/
theorem Takes.written (h : s.Takes w s') (distinct : (w.entities.map Entity.id).Nodup)
    (member : e ∈ w.entities)
    : s'.kept? e.id = some e := by
  cases h with
  | instrument newer =>
      obtain rfl := List.mem_singleton.1 member
      exact congrArg (Option.map _) (Table.find?_put_self _ _)
  | listing newer alone =>
      obtain rfl := List.mem_singleton.1 member
      exact congrArg (Option.map _) (Table.find?_put_self _ _)
  | bid newer =>
      obtain rfl := List.mem_singleton.1 member
      exact congrArg (Option.map _) (Table.find?_put_self _ _)
  | bids newer =>
      obtain ⟨b, among, rfl⟩ := List.mem_map.1 member
      refine congrArg (Option.map Entity.bid) (Table.find?_puts_mem ?_ among)
      refine List.Nodup.of_map EntityId.bid ?_
      rw [Write.entities, List.map_map] at distinct
      rw [List.map_map]
      exact distinct
  | ask newer =>
      obtain rfl := List.mem_singleton.1 member
      exact congrArg (Option.map _) (Table.find?_put_self _ _)
  | row inserted => cases member
  | transfer transferred => cases member

/-- Under all other identifiers the same is found after a write as before. -/
theorem Takes.unwritten (h : s.Takes w s') (other : ∀ e ∈ w.entities, e.id ≠ id)
    : s'.kept? id = s.kept? id := by
  cases h with
  | instrument newer =>
      cases id with
      | instrument id =>
          refine congrArg (Option.map _) (Table.find?_put_other fun same => ?_)
          exact other _ List.mem_cons_self (congrArg EntityId.instrument same)
      | _ => rfl
  | listing newer alone =>
      cases id with
      | listing id =>
          refine congrArg (Option.map _) (Table.find?_put_other fun same => ?_)
          exact other _ List.mem_cons_self (congrArg EntityId.listing same)
      | _ => rfl
  | bid newer =>
      cases id with
      | bid id =>
          refine congrArg (Option.map _) (Table.find?_put_other fun same => ?_)
          exact other _ List.mem_cons_self (congrArg EntityId.bid same)
      | _ => rfl
  | bids newer =>
      cases id with
      | bid id =>
          refine congrArg (Option.map _) (Table.find?_puts_other fun b member same => ?_)
          exact other _ (List.mem_map_of_mem member) (congrArg EntityId.bid same)
      | _ => rfl
  | ask newer =>
      cases id with
      | ask id =>
          refine congrArg (Option.map _) (Table.find?_put_other fun same => ?_)
          exact other _ List.mem_cons_self (congrArg EntityId.ask same)
      | _ => rfl
  | row inserted => cases id <;> rfl
  | transfer transferred => cases id <;> rfl

end Store

-----------------------------------------------------------------------------------------
-- Inquiries
-----------------------------------------------------------------------------------------

/-- A way of reading records that are not deleted. -/
inductive Inquiry where
  | stored (id : EntityId)
  | openListing (instrument : InstrumentId)
  | issuedBy (issuer : CompanyId)
  | listingsFor (instrument : InstrumentId)
  | bidsFor (listing : ListingId)
  | asksFor (listing : ListingId)
  | instruments (filter : InstrumentFilter)
  | listings (filter : ListingFilter)
  | bids (filter : BidFilter)
  | asks (filter : AskFilter)
deriving DecidableEq, Repr

namespace Store

/-- The records that an inquiry comes to. -/
def inquire (s : Store) : Inquiry → List Entity
  | .stored id => (s.entity? id).toList
  | .openListing instrument => (s.openListing? instrument).toList.map .listing
  | .issuedBy issuer => (s.issuedBy issuer).map .instrument
  | .listingsFor instrument => (s.listingsFor instrument).map .listing
  | .bidsFor listing => (s.bidsFor listing).map .bid
  | .asksFor listing => (s.asksFor listing).map .ask
  | .instruments filter => (s.searchInstruments filter).map .instrument
  | .listings filter => (s.searchListings filter).map .listing
  | .bids filter => (s.searchBids filter).map .bid
  | .asks filter => (s.searchAsks filter).map .ask

variable {s : Store} {e : Entity}

/-- A record is found under its identifier. -/
theorem kept?_id {id : EntityId} (found : s.kept? id = some e) : s.kept? e.id = some e := by
  cases id <;>
    obtain ⟨a, stored, rfl⟩ := Option.map_eq_some_iff.1 found <;>
    obtain rfl := Table.find?_id stored <;>
    exact found

/-- A record that is not deleted is found when deleted ones are looked for as well. -/
theorem kept?_of_entity? {id : EntityId} (found : s.entity? id = some e)
    : s.kept? e.id = some e := by
  cases id <;>
    obtain ⟨a, live, rfl⟩ := Option.map_eq_some_iff.1 found <;>
    obtain ⟨stored, -⟩ := Table.get?_eq_some.1 live <;>
    obtain rfl := Table.find?_id stored <;>
    exact congrArg (Option.map _) stored

/-- Whatever an inquiry comes to is found under its identifier. -/
theorem Keyed.kept?_of_inquire (keyed : s.Keyed) {q : Inquiry} (member : e ∈ s.inquire q)
    : s.kept? e.id = some e := by
  have searched {α : Type} {kind : IdKind} [Stored α kind] {t : Table α} {test : α → Bool}
      {a : α} (keyed : t.Keyed) (member : a ∈ t.search test)
      : t.find? (Stored.id a) = some a := by
    rw [Table.search, inOrderOf, List.mem_mergeSort] at member
    exact keyed.find?_of_mem (List.mem_of_mem_filter member)
  cases q with
  | stored id => exact kept?_of_entity? (Option.mem_toList.1 member)
  | openListing instrument =>
      obtain ⟨x, among, rfl⟩ := List.mem_map.1 member
      have stored := List.mem_of_find?_eq_some (Option.mem_toList.1 among)
      exact congrArg (Option.map _) (keyed.listings.find?_of_mem stored)
  | issuedBy | instruments =>
      obtain ⟨x, among, rfl⟩ := List.mem_map.1 member
      exact congrArg (Option.map _) (searched keyed.instruments among)
  | listingsFor | listings =>
      obtain ⟨x, among, rfl⟩ := List.mem_map.1 member
      exact congrArg (Option.map _) (searched keyed.listings among)
  | bidsFor | bids =>
      obtain ⟨b, among, rfl⟩ := List.mem_map.1 member
      exact congrArg (Option.map _) (searched keyed.bids among)
  | asksFor | asks =>
      obtain ⟨a, among, rfl⟩ := List.mem_map.1 member
      exact congrArg (Option.map _) (searched keyed.asks among)

end Store

end DebtMarket
