import DebtMarket.Proofs.Command.Admission
import DebtMarket.Proofs.Command.Effect

/-! Commands are local. What a command writes lies in the reach of its footprint: the footprint
and the stored bids on the listings in it, which an acceptance may set aside. So a command has
the same effect on all stores that agree on that, and changes nothing outside of it; and
commands with footprints that have nothing in common have reaches that have nothing in common.
-/

namespace DebtMarket

namespace Store

/-- What a command with some footprint may see or change: the footprint, and the bids that are
stored for the listings in it.
-/
inductive Reach (s : Store) (footprint : List EntityId) : EntityId → Prop
  | given {id} (member : id ∈ footprint) : Reach s footprint id
  | placed {id b} (found : s.bids.find? id = some b)
    (member : .listing b.listing ∈ footprint)
    : Reach s footprint (.bid id)

end Store

namespace Performs

variable {g : Given} {s : Store} {c : Command} {outcome : Outcome} {w : Write}
  {notice : Option (Happening × Instant)}

/-- What a command writes is in the reach of its footprint: by cases on what it does. -/
theorem touched (h : Performs g s c outcome (some w) notice) (keyed : s.Keyed)
    : ∀ id ∈ w.touched, s.Reach (c.footprint g s) id := by
  have within {ids : List EntityId} (sub : ∀ id ∈ ids, id ∈ c.footprint g s)
      : ∀ id ∈ ids, s.Reach (c.footprint g s) id :=
    fun id member => .given (sub id member)
  cases h with
  | createDraft checked =>
      obtain ⟨same, -⟩ := Instrument.draft_new checked (g.id .instrument)
      exact within (by simp [Write.touched, Command.footprint, same])
  | updateDraft stored editable issuer nonempty applied =>
      obtain ⟨same, -⟩ := Instrument.applyUpdate_touch applied
      obtain rfl := Table.get?_id stored
      exact within (List.forall_mem_singleton.2 (same ▸ List.mem_cons_self))
  | moveInstrument stored other permitted =>
      obtain rfl := Table.get?_id stored
      exact within fun _ member => member
  | recordIssuance unowned => exact within fun _ member => member
  | transfer handed owned giver taker closed => exact within fun _ member => member
  | createListing stored owned owner unoffered =>
      exact within (by simp [Write.touched, Command.footprint, Listing.start])
  | transitionListing stored other permitted unoffered =>
      obtain rfl := Table.get?_id stored
      have about := Store.mem_listingFootprint (Table.get?_eq_some.1 stored).1
      refine within (List.forall_mem_cons.2 ⟨List.mem_cons_self, ?_⟩)
      exact List.forall_mem_singleton.2 about
  | placeBid stored isOpen foreign checked =>
      exact within (by simp [Write.touched, Command.footprint, Bid.place])
  | transitionBid stored other listed isOpen permitted =>
      obtain rfl := Table.get?_id stored
      have about := Store.mem_bidFootprint (Table.get?_eq_some.1 stored).1
      refine within (List.forall_mem_cons.2 ⟨List.mem_cons_self, ?_⟩)
      exact List.forall_mem_singleton.2 about
  | acceptBid stored pending listed isOpen seller select others =>
      obtain rfl := Table.get?_id stored
      obtain ⟨-, rfl⟩ := Bid.resolve_eq_ok.1 select
      have about := Store.mem_bidFootprint (Table.get?_eq_some.1 stored).1
      intro id member
      obtain ⟨b', among, mine⟩ := List.mem_flatMap.1 member
      rcases List.mem_cons.1 among with rfl | aside
      · refine .given ?_
        rcases List.mem_pair.1 mine with rfl | rfl
        · exact List.mem_cons_self
        · exact about
      · -- the cascade: a bid that is set aside is stored for the same listing
        obtain ⟨other, listed, -, rfl⟩ := Bid.mem_setAside others aside
        obtain ⟨found, same⟩ :=
          (Store.mem_bidsFor_of_keyed keyed.bids).1 (List.mem_of_mem_filter listed)
        rw [← same] at about
        rcases List.mem_pair.1 mine with rfl | rfl
        · exact .placed (Table.get?_eq_some.1 found).1 about
        · exact .given about
  | rejectBid stored pending listed isOpen seller reject =>
      obtain rfl := Table.get?_id stored
      obtain ⟨-, rfl⟩ := Bid.resolve_eq_ok.1 reject
      have about := Store.mem_bidFootprint (Table.get?_eq_some.1 stored).1
      refine within (List.forall_mem_cons.2 ⟨List.mem_cons_self, ?_⟩)
      exact List.forall_mem_singleton.2 about
  | placeAsk stored isOpen seller checked made =>
      obtain ⟨same, -⟩ := Ask.place_new made (g.id .ask)
      exact within (by simp [Write.touched, Command.footprint, same])
  | transitionAsk stored other listed isOpen permitted =>
      obtain rfl := Table.get?_id stored
      exact within (List.forall_mem_singleton.2 List.mem_cons_self)
  | updateAsk stored active listed isOpen asker applied =>
      obtain ⟨same, -⟩ := Ask.applyUpdate_touch applied
      obtain rfl := Table.get?_id stored
      exact within (List.forall_mem_singleton.2 (same ▸ List.mem_cons_self))

/-- What a command writes moves nothing: what it creates replaces nothing, and what it changes
keeps its instrument or its listing. By cases on what the command does.
-/
theorem stays (h : Performs g s c outcome (some w) notice) (sound : s.Sound) {s' : Store}
    (takes : s.Takes w s')
    : s.Stays w := by
  have kept {b b' : Bid} {listing : ListingId} (stored : s.bids.get? b'.id = some b)
      (same : b'.listing = b.listing) (there : b.listing = listing)
      : s.bids.Meets (fun d => d.listing == listing) b' := by
    refine ⟨beq_iff_eq.2 (same.trans there), fun d found => ?_⟩
    obtain rfl := Option.some.inj ((Table.get?_eq_some.1 stored).1.symm.trans found)
    exact beq_iff_eq.2 there
  cases h with
  | createListing stored owned owner unoffered =>
      obtain _ | ⟨newer, -⟩ := takes
      have absent := sound.listings.find?_of_first rfl newer
      refine ⟨beq_self_eq_true _, fun y found => ?_⟩
      cases absent.symm.trans found
  | transitionListing stored other permitted unoffered =>
      obtain rfl := Table.get?_id stored
      refine ⟨beq_self_eq_true _, fun y found => ?_⟩
      obtain rfl := Option.some.inj ((Table.get?_eq_some.1 stored).1.symm.trans found)
      exact beq_self_eq_true _
  | placeBid stored isOpen foreign checked =>
      obtain _ | _ | ⟨newer⟩ := takes
      have absent := sound.bids.find?_of_first rfl newer
      refine ⟨beq_self_eq_true _, fun d found => ?_⟩
      cases absent.symm.trans found
  | transitionBid stored other listed isOpen permitted =>
      obtain rfl := Table.get?_id stored
      exact kept stored rfl rfl
  | rejectBid stored pending listed isOpen seller reject =>
      obtain rfl := Table.get?_id stored
      obtain ⟨-, rfl⟩ := Bid.resolve_eq_ok.1 reject
      exact kept stored rfl rfl
  | @acceptBid _ _ b _ _ setAside stored pending listed isOpen seller select others =>
      obtain rfl := Table.get?_id stored
      obtain ⟨-, rfl⟩ := Bid.resolve_eq_ok.1 select
      -- all bids of an acceptance are on one listing
      have meets : ∀ d ∈ b.moveTo .selected g.instant :: setAside, d.listing = b.listing
          ∧ s.bids.Meets (fun d => d.listing == b.listing) d := by
        refine List.forall_mem_cons.2 ⟨⟨rfl, kept stored rfl rfl⟩, fun d aside => ?_⟩
        obtain ⟨other, found, same, -, -, rfl⟩ := Store.of_setAside sound others aside
        exact ⟨same, kept found rfl same⟩
      intro d member e other
      rw [(meets d member).1]
      exact (meets e other).2
  | _ => trivial

end Performs

namespace Command

variable {g g' : Given} {s s₁ before before₁ : Store} {region : EntityId → Prop}

theorem footprint_opening (c : Command) : c.opening.footprint g s = c.footprint g s := by
  cases c <;> rfl

/-- The listing that a bid of the footprint is stored for is in the footprint; a bid that is yet to
be created is stored for none.
-/
theorem footprint_listing (c : Command)
    (unknown : c.creates? = some .bid → g.uuid .bid ∉ s.uuids .bid) {id : BidId} {b : Bid}
    (member : .bid id ∈ c.footprint g s) (found : s.bids.find? id = some b)
    : .listing b.listing ∈ c.footprint g s := by
  have closed {bid : BidId} (member : .bid id ∈ s.bidFootprint bid)
      : .listing b.listing ∈ s.bidFootprint bid := by
    have same : id = bid := by simpa [Store.bidFootprint] using member
    exact Store.mem_bidFootprint (same ▸ found)
  cases c with
  | placeBid actor request =>
      obtain rfl : id = g.id .bid := by simpa [footprint] using member
      cases (Table.find?_of_unknown (unknown rfl)).symm.trans found
  | transitionBid | acceptBid | rejectBid => exact closed member
  | _ => simp [footprint, Store.listingFootprint, Store.askFootprint] at member

/-- Commands with footprints that have nothing in common reach nothing in common. -/
theorem not_reach {c d : Command} {gd : Given}
    (unknown : c.creates? = some .bid → g.uuid .bid ∉ s.uuids .bid)
    (unknown' : d.creates? = some .bid → gd.uuid .bid ∉ s.uuids .bid)
    (apart : List.Disjoint (c.footprint g s) (d.footprint gd s)) {id : EntityId}
    (mine : s.Reach (c.footprint g s) id)
    : ¬s.Reach (d.footprint gd s) id := by
  intro other
  cases mine with
  | given member =>
      cases other with
      | given member' => exact apart member member'
      | placed found member' => exact apart (c.footprint_listing unknown member found) member'
  | placed found member =>
      cases other with
      | given member' => exact apart member (d.footprint_listing unknown' member' found)
      | placed found' member' =>
          obtain rfl := Option.some.inj (found.symm.trans found')
          exact apart member member'

/-- The opening of a request does the same to stores that agree on a region, if it asks about
the region only and touches nothing outside of it.
-/
theorem opening_local (c : Command) (h : Store.Local region before before₁ s s₁)
    (reads : ∀ id ∈ c.opening.footprint g s, region id)
    (writes
      : ∀ outcome w notice, Performs g s c.opening outcome (some w) notice
        → (∀ id ∈ w.touched, region id) ∧ ∀ s', s.Takes w s' → s.Stays w)
    : (c.opening.operation.effect g s).Alike (Store.Local region before before₁)
        (c.opening.operation.effect g s₁) := by
  refine (c.walks_opening g s).effect_alike (fun q asked => ?_) h ?_
  · exact Store.answer_of_view (h.inside _ (reads _ asked))
  · rintro outcome w notices ⟨notice, performs, -⟩
    obtain ⟨touched, stays⟩ := writes outcome w notice performs
    exact h.write touched stays

/-- A request does the same to all stores that agree on the reach of its footprint, and changes
nothing outside of it.
-/
theorem effect_local (c : Command) (g' : Given) (sound : s.Sound) (keyed₁ : s₁.Keyed)
    (same : ∀ id, s.Reach (c.footprint g s) id → s₁.view id = s.view id)
    : (c.effect g g' s).Alike (Store.Local (s.Reach (c.footprint g s)) s s₁)
        (c.effect g g' s₁) := by
  have keyed := sound.tables_keyed
  have start : Store.Local (s.Reach (c.footprint g s)) s s₁ s s₁ :=
    ⟨keyed, keyed₁, same, fun _ _ => ⟨rfl, rfl⟩⟩
  refine c.effect_alike ?_ ?_
  · refine c.opening_local start (fun id member => ?_) fun outcome w notice performs => ?_
    · exact .given (c.footprint_opening ▸ member)
    · rw [← c.footprint_opening]
      exact ⟨performs.touched keyed, fun s' => performs.stays sound⟩
  · -- the issuance that follows is about the instrument that was moved
    rintro id target actor owner s' s₁' rfl related
    have about : s.Reach ((transitionInstrument id target actor).footprint g s) (.instrument id) :=
      .given List.mem_cons_self
    refine (recordIssuance id owner).opening_local related ?_ fun outcome w notice performs => ?_
    · exact List.forall_mem_singleton.2 about
    · cases performs
      exact ⟨List.forall_mem_singleton.2 about, fun _ _ => trivial⟩

end Command

end DebtMarket
