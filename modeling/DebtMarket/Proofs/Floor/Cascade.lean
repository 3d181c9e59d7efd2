import DebtMarket.Proofs.Floor.Selection

/-! The cascade of an acceptance. One write selects the accepted bid and sets aside every other
bid that waits for an answer on its listing, each one version later; nothing else in the store
is touched. What is returned and what is made known name just the bids that were set aside,
oldest first.
-/

namespace DebtMarket

namespace Bid

/-- The bid with its answer, one version later. -/
def answered (b : Bid) (answer : BidStatus) (now : Instant) : Bid :=
  { b with status := answer, revision := b.revision.next now }

/-- A bid waits for an answer on the listing of some bid. -/
def Waits (listing : ListingId) (b : Bid) : Prop :=
  Table.isLive b = true ∧ b.status = .pending ∧ b.listing = listing

instance (listing : ListingId) (b : Bid) : Decidable (b.Waits listing) :=
  inferInstanceAs (Decidable (_ ∧ _ ∧ _))

/-- What becomes of a stored bid when one bid is accepted. -/
def settled (accepted : Bid) (now : Instant) (b : Bid) : Bid :=
  if b.Waits accepted.listing then
    b.answered (if b.id = accepted.id then .selected else .notSelected) now
  else b

theorem settled_id (accepted : Bid) {now : Instant} (b : Bid)
    : (accepted.settled now b).id = b.id := by
  unfold settled
  split
  · rfl
  · rfl

/-- No bid waits on the listing of a bid that was accepted. -/
theorem settled_answered (accepted : Bid) {now : Instant} (b : Bid)
    : ¬(accepted.settled now b).Waits accepted.listing := by
  unfold settled
  split
  · rintro ⟨-, pending, -⟩
    dsimp only [answered] at pending
    split at pending
    · cases pending
    · cases pending
  · next apart => exact apart

/-- A bid whose version may grow is moved one version on. -/
theorem moveTo_eq_answered {b : Bid} (below : b.revision.version < Revision.maxVersion)
    (answer : BidStatus) (now : Instant)
    : b.moveTo answer now = b.answered answer now := by
  rw [moveTo, answered, Revision.touch_eq_next below]

end Bid

namespace Store

/-- All that the acceptance of a stored bid does to a store. -/
structure Cascade (s : Store) (b : Bid) (now : Instant) (a : Acceptance) (s' : Store)
    : Prop where
  stored : b ∈ s.bids.rows
  waits : b.Waits b.listing
  /-- No version is the greatest one. -/
  below : ∀ x ∈ s.bids.rows, x.Waits b.listing → x.revision.version < Revision.maxVersion
  /-- The bids that waited are answered in their places, and all else stays as it is. -/
  store : s' = { s with bids := ⟨s.bids.rows.map (b.settled now)⟩ }
  selected : a.selected = b.answered .selected now
  setAside
    : ∀ x, x ∈ a.setAside
      ↔ ∃ other ∈ s.bids.rows, other.Waits b.listing ∧ other.id ≠ b.id
          ∧ x = other.answered .notSelected now
  once : (a.setAside.map Bid.id).Nodup
  inOrder : a.setAside.Pairwise fun x y => x.revision.createdAt ≤ y.revision.createdAt
  /-- What is returned is what is stored from now on. -/
  returned : ∀ x ∈ a.selected :: a.setAside, s'.bids.get? x.id = some x
  /-- No bid on the listing waits for an answer any more. -/
  answered : ∀ x ∈ s'.bids.rows, ¬x.Waits b.listing

/-- The bids that wait along with a bid on its listing, oldest first. -/
def others (s : Store) (b : Bid) : List Bid :=
  (s.bidsFor b.listing).filter fun other => other.id != b.id && other.isPending

variable {s s' : Store} {b x : Bid} {now : Instant}

theorem mem_others (sound : s.Sound)
    : x ∈ s.others b ↔ x ∈ s.bids.rows ∧ x.Waits b.listing ∧ x.id ≠ b.id := by
  rw [others, List.mem_filter, mem_bidsFor sound, Bool.and_eq_true_iff, bne_iff_ne,
    Bid.isPending, beq_iff_eq, Bid.Waits, Table.get?_eq_some]
  constructor
  · rintro ⟨⟨⟨found, live⟩, same⟩, apart, pending⟩
    exact ⟨Table.find?_mem found, ⟨live, pending, same⟩, apart⟩
  · rintro ⟨member, ⟨live, pending, same⟩, apart⟩
    exact ⟨⟨⟨sound.bids.find?_of_mem member, live⟩, same⟩, apart, pending⟩

/-- A bid that waits and the others along with it are all that wait on its listing. -/
theorem mem_waiting (sound : s.Sound) (stored : b ∈ s.bids.rows) (waits : b.Waits b.listing)
    : x ∈ b :: s.others b ↔ x ∈ s.bids.rows ∧ x.Waits b.listing := by
  rw [List.mem_cons, mem_others sound]
  constructor
  · rintro (rfl | ⟨member, along, -⟩)
    · exact ⟨stored, waits⟩
    · exact ⟨member, along⟩
  · rintro ⟨member, along⟩
    by_cases same : x.id = b.id
    · exact .inl (List.inj_on_of_nodup_map sound.bids.unique member stored same)
    · exact .inr ⟨member, along, same⟩

/-- The others that wait along with a bid are found once each, oldest first. -/
theorem others_inOrder (sound : s.Sound) (b : Bid)
    : ((b :: s.others b).map Bid.id).Nodup
      ∧ (s.others b).Pairwise fun x y => x.revision.createdAt ≤ y.revision.createdAt := by
  constructor
  · refine List.nodup_cons.2 ⟨fun among => ?_, ?_⟩
    · obtain ⟨x, member, same⟩ := List.mem_map.1 among
      exact ((mem_others sound).1 member).2.2 same
    · exact (List.filter_sublist.map Bid.id).nodup (nodup_bidsFor sound)
  · exact (s.bids.search_inOrder _).filter _

/-- Bids that wait together and are all written with their answers make a cascade: they are
stored already, so that each is answered in its place, and a version that is taken has grown.
-/
theorem cascade_of_newer (sound : s.Sound) (stored : s.bids.get? b.id = some b)
    (pending : b.status = .pending)
    (newer
      : ∀ x ∈ b.moveTo .selected now :: (s.others b).map fun x => x.moveTo .notSelected now,
          ∀ y, s.bids.find? (Stored.id x) = some y → Table.version y < Table.version x)
    : let setAside := (s.others b).map fun x => x.moveTo .notSelected now
      s.Cascade b now ⟨b.moveTo .selected now, setAside⟩
        { s with bids := (b.moveTo .selected now :: setAside).foldl Table.put s.bids } := by
  intro setAside
  obtain ⟨found, live⟩ := Table.get?_eq_some.1 stored
  have member : b ∈ s.bids.rows := Table.find?_mem found
  have waits : b.Waits b.listing := ⟨live, pending, rfl⟩
  have waiting (x : Bid) : x ∈ b :: s.others b ↔ x ∈ s.bids.rows ∧ x.Waits b.listing :=
    mem_waiting sound member waits
  obtain ⟨distinct, ordered⟩ := others_inOrder sound b
  have below : ∀ x ∈ s.bids.rows, x.Waits b.listing
      → x.revision.version < Revision.maxVersion := by
    intro x among along
    have kept := sound.bids.find?_of_mem among
    rcases List.mem_cons.1 ((waiting x).2 ⟨among, along⟩) with rfl | other
    · exact Revision.below_of_touch (newer _ List.mem_cons_self x kept)
    · have written := List.mem_cons_of_mem (b.moveTo .selected now)
        (List.mem_map_of_mem (f := fun x => x.moveTo .notSelected now) other)
      exact Revision.below_of_touch (newer _ written x kept)
  have selected : b.moveTo .selected now = b.answered .selected now :=
    Bid.moveTo_eq_answered (below b member waits) _ _
  have answered : setAside = (s.others b).map fun x => x.answered .notSelected now := by
    refine List.map_congr_left fun x other => ?_
    obtain ⟨among, along, -⟩ := (mem_others sound).1 other
    exact Bid.moveTo_eq_answered (below x among along) _ _
  have settles : ∀ x ∈ s.others b, b.settled now x = x.answered .notSelected now := by
    intro x other
    obtain ⟨-, along, apart⟩ := (mem_others sound).1 other
    rw [Bid.settled, if_pos along, if_neg apart]
  have written : b.moveTo .selected now :: setAside = (b :: s.others b).map (b.settled now) := by
    rw [selected, answered, List.map_cons, List.map_congr_left settles, Bid.settled,
      if_pos waits, if_pos rfl]
  have rows : ((b.moveTo .selected now :: setAside).foldl Table.put s.bids).rows
      = s.bids.rows.map (b.settled now) := by
    rw [written]
    refine sound.bids.keyed.puts_map distinct (fun x among => ((waiting x).1 among).1)
      b.settled_id fun x among aside => if_neg fun along => ?_
    exact aside ((waiting x).2 ⟨among, along⟩)
  have ids : ((b.moveTo .selected now :: setAside).map Bid.id).Nodup := by
    rw [written, List.map_map]
    exact (List.map_congr_left fun x _ => b.settled_id x) ▸ distinct
  refine {
    stored := member
    waits
    below
    store := congrArg (fun rows => { s with bids := ⟨rows⟩ }) rows
    selected
    setAside := fun x => ?_
    once := (List.nodup_cons.1 ids).2
    inOrder := ?_
    returned := fun x among => ?_
    answered := fun x among => ?_
  }
  · simp only [answered, List.mem_map, mem_others sound, and_assoc, eq_comm]
  · rw [List.pairwise_map]
    exact ordered
  · refine Table.get?_eq_some.2 ⟨Table.find?_puts_mem ids among, ?_⟩
    rw [written] at among
    obtain ⟨y, waited, rfl⟩ := List.mem_map.1 among
    obtain ⟨-, along⟩ := (waiting y).1 waited
    rw [Bid.settled, if_pos along]
    exact along.1
  · rw [rows] at among
    obtain ⟨y, -, rfl⟩ := List.mem_map.1 among
    exact b.settled_answered y

/-- The acceptance of a bid that succeeds on a sound store is a cascade, and is made known with
the bids that were set aside.
-/
theorem cascade_of_performs (sound : s.Sound) {g : Given} {id : BidId} {actor : Actor}
    {a : Acceptance} {w : Option Write} {notice : Option (Happening × Instant)}
    (performs : Performs g s (.acceptBid id actor) (.acceptance a) w notice)
    (wrote : s.Wrote w s')
    : ∃ b, b.id = id ∧ s.Cascade b g.instant a s'
        ∧ notice = some (.bidSelected id b.listing (a.setAside.map Bid.id), g.instant) := by
  cases performs with
  | @acceptBid _ _ b _ selected setAside stored pending _ _ _ select others =>
      obtain ⟨-, rfl⟩ := Bid.resolve_eq_ok.1 select
      obtain rfl := Table.get?_id stored
      rw [Bid.setAside_of_pending fun x member =>
        (Bool.and_eq_true_iff.1 (List.mem_filter.1 member).2).2] at others
      cases others
      cases write_takes wrote with
      | bids newer =>
          exact ⟨b, rfl, cascade_of_newer sound stored (beq_iff_eq.1 pending) newer, rfl⟩

end Store

namespace Floor

/-- Whenever a bid is accepted, the bid was stored and waited for an answer, and its acceptance
is a cascade: the bid is selected, every other bid that waited on its listing is set aside,
and nothing else in the store is changed. One event tells of it, and names the bids that
were set aside as they are returned.
-/
theorem accept_cascade {f : Floor} (h : f.Reachable) (g : Given) (id : BidId) (actor : Actor)
    {a : Acceptance}
    (accepted : ((Operation.acceptBid id actor).effect g f.market.store).result = .ok a)
    : let e := (Operation.acceptBid id actor).effect g f.market.store
      ∃ b, b.id = id ∧ f.market.store.Cascade b g.instant a e.store
        ∧ e.notices = [(.bidSelected id b.listing (a.setAside.map Bid.id), g.instant)] := by
  intro e
  have whole : (Command.acceptBid id actor).operation.effect g f.market.store
      = ⟨.ok (.acceptance a), e.store, e.notices⟩ := by
    rw [Command.operation, Operation.effect_map, Effect.andThen, accepted]
    exact congrArg _ (List.append_nil _)
  rcases (Command.acceptBid id actor).effect_opening g f.market.store with
    ⟨failure, idle⟩ | ⟨outcome, w, notice, s', performs, wrote, effect⟩
  · cases whole.symm.trans idle
  · obtain ⟨result, store, notices⟩ := Effect.mk.inj (whole.symm.trans effect)
    cases result
    obtain ⟨b, same, cascade, told⟩ := Store.cascade_of_performs h.consistent.sound performs wrote
    refine ⟨b, same, store ▸ cascade, ?_⟩
    rw [notices, told]
    rfl

namespace Sample

/-- An instrument is drafted, issued and listed; then three bids are placed. -/
def rivals : Floor :=
  opened.run (inTurn (acceptances.take 3 ++ List.replicate 3 (.placeBid buyer offer)))

/-- The second of the bids is accepted. -/
def second : Effect Acceptance :=
  (Operation.acceptBid ⟨⟨1⟩⟩ seller).effect ⟨Market.Sample.newYear, fun _ => ⟨0⟩⟩
    rivals.market.store

end Sample

/-- The acceptance of the second of three bids sets the first and the third one aside. -/
theorem accept_cascade_three
    : ∃ a b, Sample.second.result = .ok a ∧ a.setAside.map Bid.id = [⟨⟨0⟩⟩, ⟨⟨2⟩⟩]
        ∧ b.id = ⟨⟨1⟩⟩
        ∧ Sample.rivals.market.store.Cascade b Market.Sample.newYear a
            Sample.second.store := by
  have others : (match Sample.second.result with
      | .ok a => a.setAside.map Bid.id
      | .error _ => []) = [⟨⟨0⟩⟩, ⟨⟨2⟩⟩] := by cbv
  cases accepted : Sample.second.result with
  | error failure =>
      rw [accepted] at others
      cases others
  | ok a =>
      rw [accepted] at others
      have reachable : Sample.rivals.Reachable := ⟨_, _, _, _, _, rfl⟩
      obtain ⟨b, same, cascade, -⟩ :=
        accept_cascade reachable ⟨Market.Sample.newYear, fun _ => ⟨0⟩⟩ ⟨⟨1⟩⟩ Sample.seller
          accepted
      exact ⟨a, b, rfl, others, same, cascade⟩

end Floor

end DebtMarket
