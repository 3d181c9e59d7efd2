import Mathlib.Data.List.Infix
import DebtMarket.Proofs.Floor.Offers
import DebtMarket.Proofs.Floor.Turns

/-! Bids and asks on closed listings. A task writes a bid or an ask only while the listing is
open: it found the listing open under the lock of the listing, and who moves the listing has
to lock it too. So while a listing is not open, nobody places a bid or an ask on it, and
those that were placed stay as they are.
-/

namespace DebtMarket

namespace Store

/-- No bid and no ask on a listing was placed or changed, and none was lost. -/
structure Rests (s : Store) (listing : ListingId) (s' : Store) : Prop where
  bids
    : ∀ id b, b.listing = listing → (s'.bids.get? id = some b ↔ s.bids.get? id = some b)
  asks
    : ∀ id a, a.listing = listing → (s'.asks.get? id = some a ↔ s.asks.get? id = some a)

variable {s s' s'' : Store} {listing : ListingId}

theorem Rests.refl (s : Store) (listing : ListingId) : s.Rests listing s :=
  ⟨fun _ _ _ => Iff.rfl, fun _ _ _ => Iff.rfl⟩

theorem Rests.trans (h : s.Rests listing s') (h' : s'.Rests listing s'')
    : s.Rests listing s'' where
  bids := fun id b there => (h'.bids id b there).trans (h.bids id b there)
  asks := fun id a there => (h'.asks id a there).trans (h.asks id a there)

end Store

namespace Table

variable {α : Type} {kind : IdKind} [Stored α kind] {t t' : Table α}

/-- Records of a kind that nothing written is of rest: each of them is found later exactly
if it was found before.
-/
theorem Keeps.rests {π : Type} {fixed : α → π} {pinned : α → Prop} {written : List α}
    (kept : t.Keeps fixed pinned (written.foldl put t)) {value : π}
    (elsewhere : ∀ b ∈ written, fixed b ≠ value) {id : Id kind} {a : α}
    (here : fixed a = value)
    : (written.foldl put t).get? id = some a ↔ t.get? id = some a := by
  have old {c : α} (found : (written.foldl put t).get? id = some c) (same : fixed c = value)
      : t.get? id = some c := by
    rcases of_get?_puts found with member | ⟨-, before⟩
    · exact absurd same (elsewhere c member)
    · exact before
  constructor
  · intro found
    exact old found here
  · intro before
    obtain ⟨c, found, same⟩ := kept.stays id a before
    have stored := old found (same.trans here)
    rw [before] at stored
    cases stored
    exact found

end Table

namespace Store

variable {s s' : Store} {listing : ListingId}

/-- A write moves nothing on a listing on which it stores no bid and no ask. -/
theorem Takes.rests {w : Write} (h : s.Takes w s') (kept : s.Keeps [] s')
    (elsewhere : listing ∉ w.listings)
    : s.Rests listing s' := by
  cases h with
  | @bid b newer =>
      have apart : ∀ c ∈ [b], c.listing ≠ listing := by
        simpa [Write.listings, eq_comm] using elsewhere
      exact ⟨fun id c there => kept.bids.rests apart there, fun _ _ _ => Iff.rfl⟩
  | @bids written newer =>
      have apart : ∀ c ∈ written, c.listing ≠ listing := by
        simpa [Write.listings, eq_comm] using elsewhere
      exact ⟨fun id c there => kept.bids.rests apart there, fun _ _ _ => Iff.rfl⟩
  | @ask a newer =>
      have apart : ∀ c ∈ [a], c.listing ≠ listing := by
        simpa [Write.listings, eq_comm] using elsewhere
      exact ⟨fun _ _ _ => Iff.rfl, fun id c there => kept.asks.rests apart there⟩
  | _ => exact ⟨fun _ _ _ => Iff.rfl, fun _ _ _ => Iff.rfl⟩

end Store

namespace Task

/-- What a task writes in its next step, if it writes. -/
def nextWrite? (t : Task) : Option Write :=
  match t.stage with
  | .running (.call (.write w) _) => some w
  | _ => none

variable {t : Task} {m : Market} {w : Write}

/-- A task writes next if it has the write in front of it. -/
theorem nextWrite?_eq_some
    : t.nextWrite? = some w ↔ ∃ next, t.rest? = some (.call (.write w) next) := by
  unfold nextWrite? rest?
  cases t.stage with
  | running rest =>
      cases rest with
      | call c next => cases c <;> simp
      | _ => simp
  | finished result => cases result <;> simp
  | _ => simp

/-- A step leaves the store alone unless it is a write that is accepted, by cases on it. -/
theorem step_store (t : Task) (m : Market)
    : (t.step m).2.store = m.store
      ∨ ∃ w, t.nextWrite? = some w ∧ m.store.write w = .ok (t.step m).2.store := by
  have steps := t.steps_step m
  generalize (t.step m).1 = t', (t.step m).2 = m' at steps ⊢
  cases steps with
  | @call c next rest =>
      cases c with
      | write w =>
          have writes := nextWrite?_eq_some.2 ⟨next, rest⟩
          cases written : m.store.write w with
          | error e => simp [Market.answer, Market.write_eq, written]
          | ok s => simp [Market.answer, Market.write_eq, written, writes]
      | _ => exact .inl rfl
  | _ => exact .inl rfl

/-- A task writes bids and asks only on open listings. -/
theorem Consistent.opened {s : Store} (h : t.Consistent s) (sound : s.Sound)
    (writes : t.nextWrite? = some w) {listing : ListingId} (member : listing ∈ w.listings)
    : s.Opened listing := by
  obtain ⟨next, rest⟩ := nextWrite?_eq_some.1 writes
  have covered := (h.guarded _ rest).of_write
  exact covered.opened s (.refl sound) listing member

end Task

namespace Floor

variable {f : Floor} {listing : ListingId}

/-- A turn moves nothing on a listing that is not open, by cases on the turn. -/
theorem Consistent.after_rests (h : f.Consistent) (turn : Turn)
    (closed : ¬f.market.store.Opened listing)
    : f.market.store.Rests listing (f.after turn).market.store := by
  have kept := h.after_keeps turn
  have next := h.next turn
  generalize f.after turn = f' at kept next ⊢
  cases next with
  | @moved index t found moves =>
      rcases t.step_store f.market with same | ⟨w, writes, accepted⟩
      · simp only [same]
        exact .refl _ _
      · refine (Store.write_takes accepted).rests kept ?_
        intro member
        have consistent := h.tasks t (List.mem_of_getElem? found)
        exact closed (consistent.opened h.sound writes member)
  | @dropped index t found =>
      simp only [Task.drop_store]
      exact .refl _ _
  | _ => exact .refl _ _

/-- Nothing moves on a listing as long as it is not open, by induction on the schedule. -/
theorem Consistent.run_rests (h : f.Consistent) (schedule : List Turn)
    (closed
      : ∀ moment turn, moment ++ [turn] <+: schedule
        → ¬(f.run moment).market.store.Opened listing)
    : f.market.store.Rests listing (f.run schedule).market.store := by
  induction schedule using List.reverseRecOn with
  | nil => exact .refl _ _
  | append_singleton earlier turn ih =>
      have before := ih fun moment turn reached =>
        closed moment turn (reached.trans (List.prefix_append _ _))
      have now := closed earlier turn (List.prefix_refl _)
      rw [run_append, run_cons, run_nil]
      exact before.trans ((h.run earlier).after_rests turn now)

/-- Whenever a task is about to write a bid or an ask, the listing of it is stored and open;
so nothing moves on a listing over any turns before each of which it is not open.
-/
theorem offers_rest_unless_open (clock : Instant) (threshold : Nat) (outlet : Outlet)
    (source : IdKind → Nat → Uuid) (earlier : List Turn)
    : let f := (start clock threshold outlet source).run earlier
      (∀ t ∈ f.tasks, ∀ w, t.nextWrite? = some w
        → ∀ listing ∈ w.listings, f.market.store.Opened listing)
      ∧ ∀ listing later,
          (∀ moment turn, moment ++ [turn] <+: later
            → ¬(f.run moment).market.store.Opened listing)
          → f.market.store.Rests listing (f.run later).market.store := by
  intro f
  have consistent : f.Consistent :=
    (consistent_start clock threshold outlet source).run earlier
  constructor
  · intro t member w writes listing written
    exact (consistent.tasks t member).opened consistent.sound writes written
  · intro listing later closed
    exact consistent.run_rests later closed

namespace Sample

/-- An instrument is listed, and a task is about to write a bid on the listing. -/
def bidding : List Turn :=
  inTurn (acceptances.take 3)
    ++ .request (.placeBid buyer offer) :: List.replicate 6 (.step 3)

/-- An administrator closes the listing, and has to wait until the bid is placed. -/
def closing : List Turn :=
  .request (.transitionListing ⟨⟨0⟩⟩ .closed regulator) :: List.replicate 9 (.step 4)
    ++ List.replicate 8 (.step 3) ++ List.replicate 9 (.step 4)

/-- Another bid comes in too late. -/
def tooLate : List Turn :=
  .request (.placeBid buyer offer) :: List.replicate 8 (.step 5)

end Sample

/-- The listing is open when the bid on it is written, and nothing moves on it once it was
closed, though another bid comes in.
-/
theorem offers_rest_closed_meanwhile
    : let before := Sample.opened.run Sample.bidding
      let after := Sample.opened.run (Sample.bidding ++ Sample.closing)
      (∃ t ∈ before.tasks, ∃ w, t.nextWrite? = some w ∧ ⟨⟨0⟩⟩ ∈ w.listings)
      ∧ before.market.store.Opened ⟨⟨0⟩⟩ ∧ ¬after.market.store.Opened ⟨⟨0⟩⟩
      ∧ after.market.store.Rests ⟨⟨0⟩⟩ (after.run Sample.tooLate).market.store := by
  have writing : (Sample.opened.run Sample.bidding).tasks.any (fun t =>
      t.nextWrite?.any fun w => w.listings.contains ⟨⟨0⟩⟩) = true := by cbv
  have shut : (List.inits Sample.tooLate).all (fun moment =>
      !decide (((Sample.opened.run (Sample.bidding ++ Sample.closing)).run
        moment).market.store.Opened ⟨⟨0⟩⟩)) = true := by cbv
  have shut (moment : List Turn) (reached : moment <+: Sample.tooLate)
      : ¬((Sample.opened.run (Sample.bidding ++ Sample.closing)).run
        moment).market.store.Opened ⟨⟨0⟩⟩ := by
    have test := List.all_eq_true.1 shut moment ((List.mem_inits _ _).2 reached)
    simpa using test
  have rests := offers_rest_unless_open Market.Sample.newYear 1 .unbounded
    (fun _ n => ⟨BitVec.ofNat 128 n⟩)
  rw [← Sample.opened] at rests
  obtain ⟨t, member, test⟩ := List.any_eq_true.1 writing
  obtain ⟨w, writes, offered⟩ := (Option.any_eq_true _ _).1 test
  have offered : ⟨⟨0⟩⟩ ∈ w.listings := List.contains_iff_mem.1 offered
  have closed := shut [] List.nil_prefix
  rw [run_nil] at closed
  dsimp only at rests ⊢
  refine ⟨⟨t, member, w, writes, offered⟩, ?_, closed, ?_⟩
  · exact (rests Sample.bidding).1 t member w writes _ offered
  · apply (rests (Sample.bidding ++ Sample.closing)).2
    intro moment turn reached
    exact shut moment ((List.prefix_append moment [turn]).trans reached)

end Floor

end DebtMarket
