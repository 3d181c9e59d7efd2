import Mathlib
import DebtMarket.Proofs.Floor.Writes
import DebtMarket.Proofs.Policy

/-! Selected bids. The acceptance of a bid selects it and sets aside every other bid on its
listing that is pending at that moment; but the listing stays open, and a bid that is placed
later may be accepted as well. So a listing has two selected bids exactly if one of them was
placed after another one had been selected.
-/

namespace DebtMarket

namespace Store

/-- The selected bids on a listing, oldest first. -/
def selectedFor (s : Store) (listing : ListingId) : List Bid :=
  (s.bidsFor listing).filter fun b => b.status == .selected

/-- A stored bid on a listing that waits for an answer. -/
def Pending (s : Store) (listing : ListingId) (id : BidId) : Prop :=
  ∃ b, s.bids.get? id = some b ∧ b.listing = listing ∧ b.status = .pending

/-- A stored bid on a listing that was selected. -/
def Selected (s : Store) (listing : ListingId) (id : BidId) : Prop :=
  ∃ b, s.bids.get? id = some b ∧ b.listing = listing ∧ b.status = .selected

variable {s s' : Store} {w : Write} {listing : ListingId} {id : BidId} {b : Bid}

/-- The selected bids on a listing are the bids on it that were selected. -/
theorem mem_selectedFor (sound : s.Sound)
    : b ∈ s.selectedFor listing
      ↔ s.bids.get? b.id = some b ∧ b.listing = listing ∧ b.status = .selected := by
  rw [selectedFor, List.mem_filter, mem_bidsFor sound, beq_iff_eq, and_assoc]

theorem selected_of_mem (sound : s.Sound) (member : b ∈ s.selectedFor listing)
    : s.Selected listing b.id :=
  ⟨b, (mem_selectedFor sound).1 member⟩

/-- A bid that was selected is found among the selected ones on its listing. -/
theorem Selected.mem (h : s.Selected listing id) (sound : s.Sound)
    : ∃ b ∈ s.selectedFor listing, b.id = id := by
  obtain ⟨b, found, rest⟩ := h
  obtain rfl : b.id = id := Table.get?_id found
  exact ⟨b, (mem_selectedFor sound).2 ⟨found, rest⟩, rfl⟩

/-- A listing has at most one selected bid if no two bids on it were selected. -/
theorem length_selectedFor (sound : s.Sound)
    : (s.selectedFor listing).length ≤ 1
      ↔ ∀ id other, s.Selected listing id → s.Selected listing other → id = other := by
  have distinct : ((s.selectedFor listing).map Bid.id).Nodup :=
    (List.filter_sublist.map Bid.id).nodup (nodup_bidsFor sound)
  constructor
  · intro single id other selected selected'
    obtain ⟨a, member, rfl⟩ := selected.mem sound
    obtain ⟨b, member', rfl⟩ := selected'.mem sound
    rcases Nat.le_one_iff_eq_zero_or_eq_one.1 single with none | one
    · rw [List.length_eq_zero_iff.1 none] at member
      cases member
    · obtain ⟨x, only⟩ := List.length_eq_one_iff.1 one
      rw [only] at member member'
      rw [List.mem_singleton.1 member, List.mem_singleton.1 member']
  · intro single
    by_contra more
    have bound : 1 < ((s.selectedFor listing).map Bid.id).length := by
      rw [List.length_map]
      omega
    have selected (i : Nat) (bound : i < ((s.selectedFor listing).map Bid.id).length)
        : s.Selected listing ((s.selectedFor listing).map Bid.id)[i] := by
      obtain ⟨b, member, same⟩ := List.mem_map.1 (List.getElem_mem bound)
      rw [← same]
      exact selected_of_mem sound member
    have same := single _ _ (selected 0 (Nat.zero_lt_of_lt bound)) (selected 1 bound)
    exact absurd (distinct.getElem_inj_iff.1 same) (by decide)

/-- How a write of a command may change the bids: not at all, by a new pending bid, by a
move of one bid that neither selects it nor makes it pending again, or by an acceptance.
-/
inductive Bids (s : Store) : Table Bid → Prop
  | same : Bids s s.bids
  | placed {b : Bid} (absent : s.bids.get? b.id = none) (pending : b.status = .pending)
    : Bids s (s.bids.put b)
  | moved {b : Bid} {target now} (stored : s.bids.get? b.id = some b)
    (unselected : b.status ≠ .selected) (other : target ≠ .selected)
    (answered : target ≠ .pending)
    : Bids s (s.bids.put (b.moveTo target now))
  | accepted {b : Bid} {setAside now} (stored : s.bids.get? b.id = some b)
    (pending : b.status = .pending)
    (others
      : ((s.bidsFor b.listing).filter fun other => other.id != b.id && other.isPending).mapM
          (fun other => other.setAside now) = .ok setAside)
    : Bids s ((b.moveTo .selected now :: setAside).foldl Table.put s.bids)

/-- Every write of a command changes the bids in one of these ways. -/
theorem Yields.bids (h : s.Yields s') (sound : s.Sound) : s.Bids s'.bids := by
  obtain ⟨g, c, outcome, w, notice, performs, written⟩ := h
  cases write_takes written with
  | bid newer =>
      cases performs with
      | placeBid stored isOpen foreign checked =>
          have absent := sound.bids.find?_of_first rfl newer
          exact .placed (Table.get?_of_absent absent) rfl
      | transitionBid stored other listed isOpen permitted =>
          have listed := Policy.mem_moves other permitted
          obtain ⟨unselected, kept, answered⟩ := Policy.mem_bidMoves listed
          obtain rfl := Table.get?_id stored
          exact .moved stored unselected kept answered
      | rejectBid stored pending listed isOpen seller reject =>
          obtain ⟨pending, rfl⟩ := Bid.resolve_eq_ok.1 reject
          obtain rfl := Table.get?_id stored
          refine .moved stored ?_ (by decide) (by decide)
          rw [beq_iff_eq.1 pending]
          decide
  | bids newer =>
      cases performs with
      | acceptBid stored pending listed isOpen seller select others =>
          obtain ⟨pending, rfl⟩ := Bid.resolve_eq_ok.1 select
          obtain rfl := Table.get?_id stored
          exact .accepted stored (beq_iff_eq.1 pending) others
  | _ => exact .same

namespace Bids

variable {t : Table Bid}

/-- The bids that an acceptance writes are those that were pending on the listing. -/
theorem mem_accepted {now : Instant} {x : Bid} {setAside : List Bid} (sound : s.Sound)
    (stored : s.bids.get? b.id = some b) (pending : b.status = .pending)
    (others
      : ((s.bidsFor b.listing).filter fun other => other.id != b.id && other.isPending).mapM
          (fun other => other.setAside now) = .ok setAside)
    (member : x ∈ b.moveTo .selected now :: setAside)
    : s.Pending b.listing x.id ∧ x.status ≠ .pending
      ∧ (x.status = .selected → x = b.moveTo .selected now) := by
  rcases List.mem_cons.1 member with rfl | member
  · exact ⟨⟨b, stored, rfl, pending⟩, nofun, fun _ => rfl⟩
  · obtain ⟨other, stored, listing, -, waiting, rfl⟩ := of_setAside sound others member
    exact ⟨⟨other, stored, listing, beq_iff_eq.1 waiting⟩, nofun, nofun⟩

/-- Every bid on the listing that was pending is written by an acceptance. -/
theorem accepts_pending {now : Instant} {c : Bid} {setAside : List Bid} (sound : s.Sound)
    (others
      : ((s.bidsFor b.listing).filter fun other => other.id != b.id && other.isPending).mapM
          (fun other => other.setAside now) = .ok setAside)
    (found : s.bids.get? id = some c) (listing : c.listing = b.listing)
    (pending : c.status = .pending)
    : ∃ y ∈ b.moveTo .selected now :: setAside, y.id = id := by
  obtain rfl : c.id = id := Table.get?_id found
  by_cases same : c.id = b.id
  · exact ⟨_, List.mem_cons_self, same.symm⟩
  · have listed : c ∈ (s.bidsFor b.listing).filter fun other =>
        other.id != b.id && other.isPending := by
      refine List.mem_filter.2 ⟨(mem_bidsFor sound).2 ⟨found, listing⟩, ?_⟩
      simp [same, Bid.isPending, pending]
    obtain ⟨y, member, same⟩ := Bid.exists_setAside others listed
    exact ⟨y, List.mem_cons_of_mem _ member, same⟩

/-- A selected bid stays as it is. -/
theorem keeps_selected (h : s.Bids t) (sound : s.Sound) (found : s.bids.get? id = some b)
    (selected : b.status = .selected)
    : t.get? id = some b := by
  cases h with
  | same => exact found
  | placed absent pending =>
      refine (Table.get?_put_other fun here => ?_).trans found
      subst here
      cases absent.symm.trans found
  | moved stored unselected other answered =>
      refine (Table.get?_put_other fun here => ?_).trans found
      subst here
      cases stored.symm.trans found
      exact unselected selected
  | accepted stored pending others =>
      refine (Table.get?_puts_other fun y member here => ?_).trans found
      obtain ⟨⟨old, waiting, -, status⟩, -⟩ :=
        mem_accepted sound stored pending others member
      subst here
      cases waiting.symm.trans found
      rw [selected] at status
      cases status

/-- A bid that is pending was so before, or was not there yet. -/
theorem of_pending (h : s.Bids t) (sound : s.Sound) (found : t.get? id = some b)
    (pending : b.status = .pending)
    : s.bids.get? id = some b ∨ s.bids.get? id = none := by
  cases h with
  | same => exact .inl found
  | placed absent waiting =>
      rcases Table.of_get?_put found with rfl | ⟨-, before⟩
      · exact .inr (Table.get?_id found ▸ absent)
      · exact .inl before
  | moved stored unselected other answered =>
      rcases Table.of_get?_put found with rfl | ⟨-, before⟩
      · exact absurd pending answered
      · exact .inl before
  | accepted stored waiting others =>
      rcases Table.of_get?_puts found with member | ⟨-, before⟩
      · exact absurd pending (mem_accepted sound stored waiting others member).2.1
      · exact .inl before

/-- A bid that is selected was so before, or was pending and has been accepted: then no bid
on its listing is pending any more, and no other one was selected along with it.
-/
theorem of_selected (h : s.Bids t) (sound : s.Sound) (found : t.get? id = some b)
    (selected : b.status = .selected)
    : s.bids.get? id = some b
      ∨ s.Pending b.listing id
        ∧ ∀ other c, t.get? other = some c → c.listing = b.listing
            → c.status ≠ .pending
              ∧ (c.status = .selected → other = id ∨ s.bids.get? other = some c) := by
  cases h with
  | same => exact .inl found
  | placed absent waiting =>
      rcases Table.of_get?_put found with rfl | ⟨-, before⟩
      · rw [waiting] at selected
        cases selected
      · exact .inl before
  | moved stored unselected other answered =>
      rcases Table.of_get?_put found with rfl | ⟨-, before⟩
      · exact absurd selected other
      · exact .inl before
  | @accepted x setAside now stored waiting others =>
      rcases Table.of_get?_puts found with member | ⟨-, before⟩
      · obtain ⟨pending, -, only⟩ := mem_accepted sound stored waiting others member
        cases only selected
        obtain rfl : x.id = id := Table.get?_id found
        refine .inr ⟨pending, fun other c there listing => ?_⟩
        rcases Table.of_get?_puts there with member | ⟨apart, before⟩
        · obtain ⟨-, answered, only⟩ := mem_accepted sound stored waiting others member
          refine ⟨answered, fun chosen => .inl ?_⟩
          rw [← Table.get?_id there, only chosen]
          rfl
        · refine ⟨fun waits => ?_, fun _ => .inr before⟩
          obtain ⟨y, member, same⟩ := accepts_pending sound others before listing waits
          exact apart y member same
      · exact .inl before

end Bids

-----------------------------------------------------------------------------------------
-- Rival bids
-----------------------------------------------------------------------------------------

/-- A bid on a listing was selected while another one on it is pending or was selected too.
-/
def Rivals (s : Store) (listing : ListingId) (id other : BidId) : Prop :=
  s.Selected listing id ∧ (s.Pending listing other ∨ s.Selected listing other)

/-- A bid on a listing was selected before another one was placed. -/
def Precedes (s : Store) (listing : ListingId) (id other : BidId) : Prop :=
  s.Selected listing id ∧ s.bids.get? other = none

variable {other : BidId}

/-- A bid that was selected stays so. -/
theorem Bids.stays_selected (h : s.Bids s'.bids) (sound : s.Sound)
    (selected : s.Selected listing id)
    : s'.Selected listing id := by
  obtain ⟨b, found, there, status⟩ := selected
  exact ⟨b, h.keeps_selected sound found status, there, status⟩

/-- Two bids become rivals only when one of them is placed after the other was selected. -/
theorem Bids.rivals (h : s.Bids s'.bids) (sound : s.Sound) (differ : id ≠ other)
    (rivals : s'.Rivals listing id other)
    : s.Precedes listing id other ∨ s.Rivals listing id other
      ∨ s.Rivals listing other id := by
  obtain ⟨⟨b, found, here, selected⟩, rival⟩ := rivals
  rcases h.of_selected sound found selected with before | ⟨pending, accepted⟩
  · have before : s.Selected listing id := ⟨b, before, here, selected⟩
    rcases rival with ⟨c, there, same, status⟩ | ⟨c, there, same, status⟩
    · rcases h.of_pending sound there status with old | absent
      · exact .inr (.inl ⟨before, .inl ⟨c, old, same, status⟩⟩)
      · exact .inl ⟨before, absent⟩
    · rcases h.of_selected sound there status with old | ⟨pending, -⟩
      · exact .inr (.inl ⟨before, .inr ⟨c, old, same, status⟩⟩)
      · exact .inr (.inl ⟨before, .inl (same ▸ pending)⟩)
  · -- the bid was accepted just now, so the other one is not pending any more
    rcases rival with ⟨c, there, same, status⟩ | ⟨c, there, same, status⟩
    · exact absurd status (accepted other c there (same.trans here.symm)).1
    · rcases (accepted other c there (same.trans here.symm)).2 status with equal | old
      · exact absurd equal.symm differ
      · exact .inr (.inr ⟨⟨c, old, same, status⟩, .inl (here ▸ pending)⟩)

end Store

namespace Floor

variable {f : Floor} {listing : ListingId} {id other : BidId}

/-- A turn changes the bids in one of the ways of commands, if at all. -/
theorem Consistent.after_bids (h : f.Consistent) (turn : Turn)
    : f.market.store.Bids (f.after turn).market.store.bids := by
  rcases h.after_store turn with same | yields
  · rw [same]
    exact .same
  · exact yields.bids h.sound

/-- Bids that were selected stay so over every schedule. -/
theorem Consistent.run_selected (h : f.Consistent)
    (selected : f.market.store.Selected listing id) (schedule : List Turn)
    : (f.run schedule).market.store.Selected listing id :=
  h.invariant (fun _ _ sound yields before => (yields.bids sound).stays_selected sound before)
    selected schedule

/-- Of two rival bids one was selected before the other one was placed, by induction on the
schedule that made them rivals.
-/
theorem Consistent.rivals (h : f.Consistent)
    (fresh : ∀ id, ¬ f.market.store.Selected listing id) (schedule : List Turn)
    (differ : id ≠ other) (rivals : (f.run schedule).market.store.Rivals listing id other)
    : ∃ earlier, earlier <+: schedule
        ∧ ((f.run earlier).market.store.Precedes listing id other
          ∨ (f.run earlier).market.store.Precedes listing other id) := by
  induction schedule using List.reverseRecOn generalizing id other with
  | nil => exact absurd rivals.1 (fresh id)
  | append_singleton earlier turn ih =>
      have consistent := h.run earlier
      rw [run_append, run_cons, run_nil] at rivals
      have longer {moment : List Turn} (shorter : moment <+: earlier)
          : moment <+: earlier ++ [turn] :=
        shorter.trans (List.prefix_append _ _)
      rcases (consistent.after_bids turn).rivals consistent.sound differ rivals with
        precedes | before | before
      · exact ⟨earlier, List.prefix_append _ _, .inl precedes⟩
      · obtain ⟨moment, shorter, precedes⟩ := ih differ before
        exact ⟨moment, longer shorter, precedes⟩
      · obtain ⟨moment, shorter, precedes⟩ := ih differ.symm before
        exact ⟨moment, longer shorter, precedes.symm⟩

/-- A listing has at most one selected bid at every moment of a schedule exactly if no bid
on it is ever selected that was placed after another one had been selected.
-/
theorem one_selected_iff (clock : Instant) (threshold : Nat) (outlet : Outlet)
    (source : IdKind → Nat → Uuid) (schedule : List Turn) (listing : ListingId)
    : let stores moment := ((start clock threshold outlet source).run moment).market.store
      (∀ moment, moment <+: schedule → ((stores moment).selectedFor listing).length ≤ 1)
      ↔ ∀ moment earlier, moment <+: schedule → earlier <+: moment
          → ∀ b ∈ (stores moment).selectedFor listing,
              (stores earlier).bids.get? b.id = none
                → (stores earlier).selectedFor listing = [] := by
  intro stores
  have consistent (moment : List Turn) :=
    (consistent_start clock threshold outlet source).run moment
  have sound (moment : List Turn) : (stores moment).Sound := (consistent moment).sound
  have fresh (id : BidId) : ¬ (stores []).Selected listing id := by
    rintro ⟨b, found, -⟩
    cases found
  constructor
  · intro single moment earlier reached shorter b member absent
    obtain ⟨later, rfl⟩ := shorter
    rw [List.eq_nil_iff_forall_not_mem]
    intro a chosen
    have before := Store.selected_of_mem (sound earlier) chosen
    have selected : (stores (earlier ++ later)).Selected listing a.id := by
      have stays := (consistent earlier).run_selected before later
      rwa [← run_append] at stays
    have selected' := Store.selected_of_mem (sound _) member
    have same := (Store.length_selectedFor (sound _)).1 (single _ reached) _ _
      selected selected'
    obtain ⟨a, found, -⟩ := before
    rw [same, absent] at found
    cases found
  · intro placed moment reached
    apply (Store.length_selectedFor (sound moment)).2
    intro id other selected selected'
    by_contra differ
    have late {id other} (selected : (stores moment).Selected listing other) {earlier}
        (shorter : earlier <+: moment)
        (precedes : (stores earlier).Precedes listing id other)
        : False := by
      obtain ⟨b, member, rfl⟩ := selected.mem (sound moment)
      obtain ⟨a, member', -⟩ := precedes.1.mem (sound earlier)
      rw [placed moment earlier reached shorter b member precedes.2] at member'
      cases member'
    obtain ⟨earlier, shorter, precedes | precedes⟩ :=
      (consistent_start clock threshold outlet source).rivals fresh moment differ
        ⟨selected, .inr selected'⟩
    · exact late selected' shorter precedes
    · exact late selected shorter precedes

namespace Sample

open Market.Sample

/-- A company that issues an instrument and sells it. -/
def seller : Actor :=
  { user := ⟨⟨1⟩⟩, company := ⟨⟨1⟩⟩, role := .seller }

/-- A company that bids. -/
def buyer : Actor :=
  { user := ⟨⟨2⟩⟩, company := ⟨⟨2⟩⟩, role := .buyer }

/-- An offer of one euro on the first listing. -/
def offer : BidRequest :=
  .make ⟨⟨0⟩⟩ one.decimal euro

/-- An instrument is drafted, issued and listed; then twice a bid is placed and accepted. -/
def acceptances : List Command :=
  [
    .createDraft seller
      {
        name := "note",
        faceValue := one.decimal,
        currency := euro,
        maturityDate := nextYear,
        maturityPayment := one.decimal,
        publicPayload := none
      },
    .recordIssuance ⟨⟨0⟩⟩ seller.company,
    .createListing ⟨⟨0⟩⟩ seller,
    .placeBid buyer offer,
    .acceptBid ⟨⟨0⟩⟩ seller,
    .placeBid buyer offer,
    .acceptBid ⟨⟨1⟩⟩ seller
  ]

/-- Commands that come in one after another, each with enough steps to finish. -/
def inTurn (commands : List Command) : List Turn :=
  commands.zipIdx.flatMap fun (c, index) =>
    .request c :: List.replicate 16 (.step index)

end Sample

/-- A listing has two selected bids after the second acceptance. -/
theorem two_selected
    : 1 < ((Sample.opened.run (Sample.inTurn Sample.acceptances)).market.store.selectedFor
        ⟨⟨0⟩⟩).length := by
  -- the equations that the run is evaluated with come from all over the library
  cbv

end Floor

end DebtMarket
