import DebtMarket.Proofs.Operation.Achieves
import DebtMarket.Proofs.Store.Entities
import DebtMarket.Proofs.Store.Ledger
import DebtMarket.Proofs.Store.Parts

/-! What a store holds about an identifier. Every query is answered from the view of its subject,
and every write is accepted or refused according to the views of what it touches. An accepted
write changes each view by itself: the view of what it does not touch stays, and where two
stores have the same view they have the same view after it.
-/

namespace DebtMarket

/-- What a store holds about an identifier: its record, if there is one, and what belongs to it.
The listings that offer an instrument and its rows in the ledger belong to the instrument, and
the bids on a listing belong to the listing.
-/
inductive View where
  | instrument (record : Option Instrument) (offers : Table Listing) (rows : List Ownership)
  | listing (record : Option Listing) (bids : Table Bid)
  | bid (record : Option Bid)
  | ask (record : Option Ask)
deriving DecidableEq, Repr

/-- The identifier that a query is about: who owns or offers an instrument is a matter of the
instrument, and the bids on a listing are a matter of the listing.
-/
def Query.subject : Query → EntityId
  | .instrument id | .openListing id | .activeRow id => .instrument id
  | .listing id | .bidsFor id => .listing id
  | .bid id => .bid id
  | .ask id => .ask id

/-- The identifiers of what a write stores, and those of what this belongs to. -/
def Write.touched : Write → List EntityId
  | .instrument x => [.instrument x.id]
  | .listing x => [.listing x.id, .instrument x.instrument]
  | .bid b => [.bid b.id, .listing b.listing]
  | .bids written => written.flatMap fun b => [.bid b.id, .listing b.listing]
  | .ask a => [.ask a.id]
  | .row added => [.instrument added.instrument]
  | .transfer _ opened => [.instrument opened.instrument]

namespace Table

variable {α : Type} {kind : IdKind} [Stored α kind] {t t₁ : Table α} {a : α} {p : α → Bool}

theorem Meets.congr (h : t.Meets p a)
    (same : t₁.find? (Stored.id a) = t.find? (Stored.id a))
    : t₁.Meets p a :=
  ⟨h.test, fun b found => h.replaced b (same ▸ found)⟩

theorem find?_put_congr {id : Id kind} (same : t₁.find? id = t.find? id)
    : (t₁.put a).find? id = (t.put a).find? id := by
  rw [find?_put, find?_put, same]

/-- What is found alike is found alike after the same records were put in, by induction on
them.
-/
theorem find?_puts_congr {id : Id kind} {records : List α} (same : t₁.find? id = t.find? id)
    : (records.foldl put t₁).find? id = (records.foldl put t).find? id := by
  induction records generalizing t t₁ with
  | nil => exact same
  | cons a rest ih => exact ih (find?_put_congr same)

end Table

namespace Ledger

variable {l l₁ l' l₁' : Ledger} {row closing opened : Ownership} {instrument : InstrumentId}

/-- A row is inserted or refused according to the rows of its instrument. -/
theorem insert_verdict (same : l₁.rowsOf row.instrument = l.rowsOf row.instrument)
    : (l₁.insert row).map (fun _ => ()) = (l.insert row).map fun _ => () := by
  have active : l₁.active? row.instrument = l.active? row.instrument := by
    rw [active?, active?, same]
  simp only [insert_eq, hasRow, same, active]
  split
  · rfl
  · split
    · cases l.active? row.instrument <;> rfl
    · rfl

/-- A transfer is made or refused according to the rows of its instrument. -/
theorem transfer_verdict (same : l₁.rowsOf opened.instrument = l.rowsOf opened.instrument)
    : (l₁.transfer closing opened).map (fun _ => ())
      = (l.transfer closing opened).map fun _ => () := by
  by_cases mine : closing.instrument = opened.instrument
  · simp only [transfer_eq, hasRow, mine, same]
    split
    · rfl
    · cases (l.rowsOf opened.instrument).find? fun row => row.id == closing.id with
      | none => simp
      | some stored =>
          cases active : stored.isActive with
          | false => simp [active, refuse, bind, Except.bind]
          | true =>
              cases (l.rowsOf opened.instrument).any fun row => row.id == opened.id <;>
                simp [active, refuse, bind, Except.bind, pure, Except.pure, Except.map]
  · simp [transfer_eq, mine, refuse, bind, Except.bind, Except.map]

/-- The same row is added to the same rows of an instrument. -/
theorem rowsOf_insert_congr (h : l.insert row = .ok l') (h₁ : l₁.insert row = .ok l₁')
    (same : l₁.rowsOf instrument = l.rowsOf instrument)
    : l₁'.rowsOf instrument = l'.rowsOf instrument := by
  obtain ⟨-, -, rfl⟩ := insert_eq_ok.1 h
  obtain ⟨-, -, rfl⟩ := insert_eq_ok.1 h₁
  rw [rowsOf_append, rowsOf_append]
  exact congrArg (· ++ _) same

/-- The same transfer is made among the same rows of an instrument. -/
theorem rowsOf_transfer_congr (h : l.transfer closing opened = .ok l')
    (h₁ : l₁.transfer closing opened = .ok l₁')
    (same : l₁.rowsOf instrument = l.rowsOf instrument)
    : l₁'.rowsOf instrument = l'.rowsOf instrument := by
  by_cases mine : opened.instrument = instrument
  · obtain ⟨-, -, closed, -, -, rfl⟩ := transfer_eq_ok.1 h
    obtain ⟨-, -, -, -, -, rfl⟩ := transfer_eq_ok.1 h₁
    subst mine
    rw [← closed] at same ⊢
    rw [rowsOf_append, rowsOf_append, rowsOf_replace_self, rowsOf_replace_self, same]
  · rw [rowsOf_transfer_other h mine, rowsOf_transfer_other h₁ mine, same]

end Ledger

namespace Store

variable {s s₁ s' s₁' : Store} {w : Write} {id : EntityId}

/-- What the store holds about an identifier. -/
def view (s : Store) : EntityId → View
  | .instrument id =>
      .instrument (s.instruments.find? id) (s.listings.part fun x => x.offers id)
        (s.ledger.rowsOf id)
  | .listing id => .listing (s.listings.find? id) (s.bids.part fun b => b.listing == id)
  | .bid id => .bid (s.bids.find? id)
  | .ask id => .ask (s.asks.find? id)

-----------------------------------------------------------------------------------------
-- Reading
-----------------------------------------------------------------------------------------

/-- The listing that offers an instrument is the first one in the view of the instrument. -/
theorem openListing?_eq (s : Store) (id : InstrumentId)
    : s.openListing? id = (s.listings.part fun x => x.offers id).rows.head? := by
  rw [Table.part, List.head?_filter, openListing?]

/-- Another listing that offers the same instrument is in the view of the instrument. -/
theorem rival?_eq (s : Store) (x : Listing)
    : s.rival? x
      = (s.listings.part fun y => y.offers x.instrument).rows.find? fun y => y.id != x.id := by
  rw [Table.part, List.find?_filter, rival?]
  refine congrArg (List.find? · s.listings.rows) (funext fun y => ?_)
  rw [Bool.decide_and, Bool.decide_eq_true, Bool.decide_eq_true, Bool.and_comm]

/-- The bids on a listing are in the view of the listing. -/
theorem bidsFor_eq (s : Store) (id : ListingId)
    : s.bidsFor id = (s.bids.part fun b => b.listing == id).search fun _ => true := by
  simp only [bidsFor, Table.search, Table.part, List.filter_filter, Bool.and_true]

/-- A query is answered from the view of its subject. -/
theorem answer_of_view {q : Query} (same : s₁.view q.subject = s.view q.subject)
    : s₁.answer q = s.answer q := by
  cases q with
  | instrument id | listing id | bid id | ask id =>
      injection same with found
      exact congrArg (Option.filter Table.isLive) found
  | openListing instrument =>
      injection same with _ offers _
      simp only [answer, openListing?_eq, offers]
  | bidsFor listing =>
      injection same with _ bids
      simp only [answer, bidsFor_eq, bids]
  | activeRow instrument =>
      injection same with _ _ rows
      simp only [answer, Ledger.active?, rows]

-----------------------------------------------------------------------------------------
-- Writing
-----------------------------------------------------------------------------------------

/-- A write is accepted or refused, with the same refusal, according to the views of what it
touches.
-/
theorem verdict_of_view (same : ∀ id ∈ w.touched, s₁.view id = s.view id)
    : (s₁.write w).map (fun _ => ()) = (s.write w).map fun _ => () := by
  cases w with
  | instrument x =>
      injection same _ List.mem_cons_self with found
      simp only [write_instrument, Table.save_eq, Table.checkVersion_congr found]
      cases s.instruments.checkVersion x <;> rfl
  | listing x =>
      obtain ⟨record, offered⟩ := List.forall_mem_cons.1 same
      injection record with found
      injection offered _ List.mem_cons_self with _ offers
      simp only [write_listing, Table.checkVersion_congr found, rival?_eq, offers]
      cases s.listings.checkVersion x with
      | error e => rfl
      | ok u =>
          cases x.offers x.instrument with
          | false => rfl
          | true =>
              generalize (s.listings.part _).rows.find? _ = rival
              cases rival <;> rfl
  | bid b =>
      injection same _ List.mem_cons_self with found
      simp only [write_bid, Table.save_eq, Table.checkVersion_congr found]
      cases s.bids.checkVersion b <;> rfl
  | bids written =>
      have found : ∀ b ∈ written, s₁.bids.find? b.id = s.bids.find? b.id := by
        intro b member
        injection same (.bid b.id) (List.mem_flatMap.2 ⟨b, member, List.mem_cons_self⟩)
      have checks := Table.checkVersions_congr fun b member =>
        Table.checkVersion_congr (found b member)
      simp only [write_bids, Table.saveAll_eq, checks]
      cases written.forM s.bids.checkVersion <;> rfl
  | ask a =>
      injection same _ List.mem_cons_self with found
      simp only [write_ask, Table.save_eq, Table.checkVersion_congr found]
      cases s.asks.checkVersion a <;> rfl
  | row added =>
      injection same _ List.mem_cons_self with _ _ rows
      have verdict := Ledger.insert_verdict rows
      simp only [write_row]
      generalize s₁.ledger.insert added = there at verdict
      generalize s.ledger.insert added = here at verdict
      cases there <;> cases here <;> exact verdict
  | transfer closing opened =>
      injection same _ List.mem_cons_self with _ _ rows
      have verdict : (s₁.ledger.transfer closing opened).map _ = _ := Ledger.transfer_verdict rows
      simp only [write_transfer]
      generalize s₁.ledger.transfer closing opened = there at verdict
      generalize s.ledger.transfer closing opened = here at verdict
      cases there <;> cases here <;> exact verdict

/-- A write moves nothing: a listing that it replaces has the same instrument, and a bid that it
replaces is on the same listing.
-/
def Stays (s : Store) : Write → Prop
  | .listing x => s.listings.Meets (fun y => y.instrument == x.instrument) x
  | .bid b => s.bids.Meets (fun c => c.listing == b.listing) b
  | .bids written =>
      ∀ b ∈ written, ∀ c ∈ written, s.bids.Meets (fun d => d.listing == b.listing) c
  | .instrument _ | .ask _ | .row _ | .transfer .. => True

/-- Whether a write moves anything is seen in the views of what it touches. -/
theorem Stays.of_view (h : s.Stays w) (same : ∀ id ∈ w.touched, s₁.view id = s.view id)
    : s₁.Stays w := by
  cases w with
  | listing x =>
      injection same _ List.mem_cons_self with found
      exact h.congr found
  | bid b =>
      injection same _ List.mem_cons_self with found
      exact h.congr found
  | bids written =>
      intro b member c other
      injection same (.bid c.id) (List.mem_flatMap.2 ⟨c, other, List.mem_cons_self⟩) with found
      exact (h b member c other).congr found
  | _ => trivial

theorem offers_of_ne {x : Listing} {instrument : InstrumentId} (other : x.instrument ≠ instrument)
    : x.offers instrument = false := by
  simp [Listing.offers, other]

/-- A listing that is stored to offer an instrument is the only one that does. -/
theorem offers_put (keyed : s.listings.Keyed) {x : Listing}
    (offers : x.offers x.instrument = true) (alone : s.rival? x = none)
    : (s.listings.put x).part (fun y => y.offers x.instrument) = ⟨[x]⟩ := by
  have mine : ∀ y ∈ ((s.listings.put x).part fun y => y.offers x.instrument).rows, y = x := by
    intro y member
    obtain ⟨stored, offersToo⟩ := List.mem_filter.1 member
    rcases Table.mem_put stored with rfl | before
    · rfl
    have same : y.id = x.id := by
      by_contra other
      have rival := List.find?_eq_none.1 alone y before
      simp [other, offersToo] at rival
    have found := (keyed.put x).find?_of_mem stored
    rw [show Stored.id y = Stored.id x from same, Table.find?_put_self] at found
    exact (Option.some.inj found).symm
  have stored : x ∈ ((s.listings.put x).part fun y => y.offers x.instrument).rows :=
    List.mem_filter.2 ⟨Table.find?_mem (Table.find?_put_self s.listings x), offers⟩
  have once := List.Nodup.of_map _ ((keyed.put x).part fun y => y.offers x.instrument)
  refine Table.eq_of_rows ?_
  rw [List.eq_replicate_of_mem mine]
  rw [List.eq_replicate_of_mem mine, List.nodup_replicate] at once
  have some := List.length_pos_of_mem stored
  rw [show List.length _ = 1 from Nat.le_antisymm once some]
  rfl

theorem view_instrument {id : InstrumentId}
    (found : s₁.instruments.find? id = s.instruments.find? id)
    (offers
      : (s₁.listings.part fun x => x.offers id) = s.listings.part fun x => x.offers id)
    (rows : s₁.ledger.rowsOf id = s.ledger.rowsOf id)
    : s₁.view (.instrument id) = s.view (.instrument id) := by
  simp only [view, found, offers, rows]

theorem view_listing {id : ListingId} (found : s₁.listings.find? id = s.listings.find? id)
    (bids
      : (s₁.bids.part fun b => b.listing == id) = s.bids.part fun b => b.listing == id)
    : s₁.view (.listing id) = s.view (.listing id) := by
  simp only [view, found, bids]

/-- The bids on a listing are the same after the same bids on one listing were put in. -/
theorem bids_part_congr {written : List Bid} {id : ListingId} (keyed : s.Keyed)
    (keyed₁ : s₁.Keyed) (stays : s.Stays (.bids written)) (stays₁ : s₁.Stays (.bids written))
    (same : (s₁.bids.part fun b => b.listing == id) = s.bids.part fun b => b.listing == id)
    : ((written.foldl Table.put s₁.bids).part fun b => b.listing == id)
      = (written.foldl Table.put s.bids).part fun b => b.listing == id := by
  cases written with
  | nil => exact same
  | cons b rest =>
      have meets := stays b List.mem_cons_self
      have meets₁ := stays₁ b List.mem_cons_self
      by_cases here : b.listing = id
      · subst here
        rw [keyed.bids.part_puts meets, keyed₁.bids.part_puts meets₁, same]
      · have apart (c : Bid) (mine : (c.listing == b.listing) = true)
            : (c.listing == id) = false := by
          rw [beq_iff_eq.1 mine]
          simp [here]
        rw [keyed.bids.part_puts_apart meets apart, keyed₁.bids.part_puts_apart meets₁ apart,
          same]

/-- Where two stores have the same view, they have the same view after the same write: by cases
on what is written.
-/
theorem Takes.view_congr (h : s.Takes w s') (h₁ : s₁.Takes w s₁') (keyed : s.Keyed)
    (keyed₁ : s₁.Keyed) (stays : s.Stays w) (stays₁ : s₁.Stays w)
    (same : s₁.view id = s.view id)
    : s₁'.view id = s'.view id := by
  have several (written : List Bid) (stays : s.Stays (.bids written))
      (stays₁ : s₁.Stays (.bids written))
      : view { s₁ with bids := written.foldl Table.put s₁.bids } id
        = view { s with bids := written.foldl Table.put s.bids } id := by
    cases id with
    | listing id =>
        injection same with found bids
        exact view_listing found (bids_part_congr keyed keyed₁ stays stays₁ bids)
    | bid id =>
        injection same with found
        exact congrArg View.bid (Table.find?_puts_congr found)
    | _ => exact same
  cases h with
  | instrument newer =>
      obtain ⟨newer₁⟩ := h₁
      cases id with
      | instrument id =>
          injection same with found offers rows
          exact view_instrument (Table.find?_put_congr found) offers rows
      | _ => exact same
  | @listing x newer alone =>
      obtain _ | ⟨newer₁, alone₁⟩ := h₁
      cases id with
      | instrument id =>
          injection same with found offers rows
          refine view_instrument found ?_ rows
          cases offered : x.offers id with
          | true =>
              obtain rfl : x.instrument = id := by
                by_contra other
                rw [offers_of_ne other] at offered
                cases offered
              rw [offers_put keyed₁.listings offered (alone₁ offered),
                offers_put keyed.listings offered (alone offered)]
          | false =>
              have out (t : Table Listing) := t.part_put_out (p := fun y => y.offers id) offered
              rw [out, out, offers]
      | listing id =>
          injection same with found bids
          exact view_listing (Table.find?_put_congr found) bids
      | _ => exact same
  | @bid b newer =>
      obtain _ | _ | ⟨newer₁⟩ := h₁
      exact several [b] (by simpa [Stays] using stays) (by simpa [Stays] using stays₁)
  | bids newer =>
      obtain _ | _ | _ | ⟨newer₁⟩ := h₁
      exact several _ stays stays₁
  | ask newer =>
      obtain _ | _ | _ | _ | ⟨newer₁⟩ := h₁
      cases id with
      | ask id =>
          injection same with found
          exact congrArg View.ask (Table.find?_put_congr found)
      | _ => exact same
  | row inserted =>
      obtain _ | _ | _ | _ | _ | ⟨inserted₁⟩ := h₁
      cases id with
      | instrument id =>
          injection same with found offers rows
          exact view_instrument found offers (Ledger.rowsOf_insert_congr inserted inserted₁ rows)
      | _ => exact same
  | transfer transferred =>
      obtain _ | _ | _ | _ | _ | _ | ⟨transferred₁⟩ := h₁
      cases id with
      | instrument id =>
          injection same with found offers rows
          exact view_instrument found offers
            (Ledger.rowsOf_transfer_congr transferred transferred₁ rows)
      | _ => exact same

/-- A write leaves the views of all that it does not touch as they are: by cases on what is
written.
-/
theorem Takes.view_untouched (h : s.Takes w s') (keyed : s.Keyed) (stays : s.Stays w)
    (apart : id ∉ w.touched)
    : s'.view id = s.view id := by
  have several (written : List Bid) (stays : s.Stays (.bids written))
      (apart : id ∉ (Write.bids written).touched)
      : view { s with bids := written.foldl Table.put s.bids } id = s.view id := by
    have missing {b : Bid} (member : b ∈ written) : id ≠ .bid b.id ∧ id ≠ .listing b.listing := by
      constructor <;> rintro rfl <;> exact apart (List.mem_flatMap.2 ⟨b, member, by simp⟩)
    cases id with
    | listing id =>
        refine view_listing rfl ?_
        cases written with
        | nil => rfl
        | cons b rest =>
            refine keyed.bids.part_puts_apart (stays b List.mem_cons_self) fun c mine => ?_
            have other := (missing List.mem_cons_self).2
            rw [beq_iff_eq.1 mine]
            exact beq_eq_false_iff_ne.2 fun here => other (congrArg EntityId.listing here.symm)
    | bid id =>
        refine congrArg View.bid (Table.find?_puts_other fun b member same => ?_)
        exact (missing member).1 (congrArg EntityId.bid same.symm)
    | _ => rfl
  cases h with
  | @instrument x newer =>
      cases id with
      | instrument id =>
          refine view_instrument (Table.find?_put_other fun same => apart ?_) rfl rfl
          exact List.mem_singleton.2 (congrArg EntityId.instrument same.symm)
      | _ => rfl
  | @listing x newer alone =>
      cases id with
      | instrument id =>
          have other : x.instrument ≠ id := by
            rintro rfl
            exact apart (by simp [Write.touched])
          refine view_instrument rfl ?_ rfl
          refine keyed.listings.part_put_apart stays fun y mine => ?_
          rw [beq_iff_eq] at mine
          exact offers_of_ne (mine ▸ other)
      | listing id =>
          refine view_listing (Table.find?_put_other fun same => apart ?_) rfl
          obtain rfl : x.id = id := same
          exact List.mem_cons_self
      | _ => rfl
  | @bid b newer =>
      exact several [b] (by simpa [Stays] using stays)
        (by simpa [Write.touched] using apart)
  | bids newer => exact several _ stays apart
  | @ask a newer =>
      cases id with
      | ask id =>
          refine congrArg View.ask (Table.find?_put_other fun same => apart ?_)
          exact List.mem_singleton.2 (congrArg EntityId.ask same.symm)
      | _ => rfl
  | row inserted =>
      cases id with
      | instrument id =>
          refine view_instrument rfl rfl (Ledger.rowsOf_insert_other inserted ?_)
          rintro rfl
          exact apart List.mem_cons_self
      | _ => rfl
  | transfer transferred =>
      cases id with
      | instrument id =>
          refine view_instrument rfl rfl (Ledger.rowsOf_transfer_other transferred ?_)
          rintro rfl
          exact apart List.mem_cons_self
      | _ => rfl

-----------------------------------------------------------------------------------------
-- Changes within a region
-----------------------------------------------------------------------------------------

/-- Two stores come from two others by the same change within a region: they have the same views
inside of it, and those of the others outside.
-/
structure Local (region : EntityId → Prop) (before before₁ s s₁ : Store) : Prop where
  keyed : s.Keyed
  keyed₁ : s₁.Keyed
  inside : ∀ id, region id → s₁.view id = s.view id
  outside : ∀ id, ¬region id → s.view id = before.view id ∧ s₁.view id = before₁.view id

/-- A change within a region goes on with a write that touches nothing outside of it. -/
theorem Local.write {region : EntityId → Prop} {before before₁ : Store}
    (h : Local region before before₁ s s₁) (touched : ∀ id ∈ w.touched, region id)
    (stays : ∀ s', s.Takes w s' → s.Stays w)
    : s.WritesAlike (Local region before before₁) s₁ w := by
  have seen := fun id member => h.inside id (touched id member)
  have verdict := verdict_of_view seen
  cases written : s.write w with
  | error e =>
      cases written₁ : s₁.write w with
      | error e₁ =>
          rw [written, written₁] at verdict
          cases verdict
          exact .inl ⟨e, written, written₁⟩
      | ok s₁' =>
          rw [written, written₁] at verdict
          cases verdict
  | ok s' =>
      cases written₁ : s₁.write w with
      | error e₁ =>
          rw [written, written₁] at verdict
          cases verdict
      | ok s₁' =>
          have takes := write_takes written
          have takes₁ := write_takes written₁
          have stays := stays s' takes
          have stays₁ := stays.of_view seen
          refine .inr ⟨s', s₁', written, written₁, ?_⟩
          exact {
            keyed := takes.keyed h.keyed
            keyed₁ := takes₁.keyed h.keyed₁
            inside := fun id inner =>
              takes.view_congr takes₁ h.keyed h.keyed₁ stays stays₁ (h.inside id inner)
            outside := fun id outer => by
              have apart := fun member => outer (touched id member)
              rw [takes.view_untouched h.keyed stays apart,
                takes₁.view_untouched h.keyed₁ stays₁ apart]
              exact h.outside id outer
          }

end Store

end DebtMarket
