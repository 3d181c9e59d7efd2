import DebtMarket.Proofs.Command.Performs
import DebtMarket.Proofs.Market.Reading
import DebtMarket.Proofs.Ownership.Owner
import DebtMarket.Proofs.Store.Evolution

/-! Commands that are repeated. A command that moved a record, offered, issued or handed over an
instrument, or answered a bid has changed what it depends on. When it is repeated on the store
that it left, it finds the record in its new status, the listing, the owner or the answered bid,
and comes to an end without any change.
-/

namespace DebtMarket

-----------------------------------------------------------------------------------------
-- What a repeated command is answered
-----------------------------------------------------------------------------------------

namespace Command

/-- Whether a command moves a record to a status, offers, issues or hands over an instrument, or
answers a bid.
-/
def settles : Command → Bool
  | createDraft .. | updateDraft .. | placeBid .. | placeAsk .. | updateAsk .. => false
  | _ => true

/-- The answer to a command that had an outcome before and is repeated on a store. A record that
was moved is answered as it is stored. Otherwise the command is refused because of what it did.
-/
inductive Repeats (s : Store) : Command → Outcome → Except Failure Outcome → Prop
  | transitionInstrument {id target actor t}
    (stored : s.instruments.get? id = some t.instrument) (status : t.instrument.status = target)
    : Repeats s (.transitionInstrument id target actor) (.transition t)
        (.ok (.transition ⟨t.instrument, target⟩))
  | moveInstrument {id target actor t}
    (stored : s.instruments.get? id = some t.instrument) (status : t.instrument.status = target)
    : Repeats s (.moveInstrument id target actor) (.transition t)
        (.ok (.transition ⟨t.instrument, target⟩))
  | recordIssuance {instrument owner row}
    (owned : s.ledger.active? instrument = some row) (recorded : row.owner = owner)
    : Repeats s (.recordIssuance instrument owner) (.ownership row)
        (.error (.market (.alreadyOwned instrument owner)))
  | transfer {instrument fromOwner toOwner reason row}
    (owned : s.ledger.active? instrument = some row) (recorded : row.owner = toOwner)
    : Repeats s (.transfer instrument fromOwner toOwner reason) (.ownership row)
        (.error (.market (.notOwner instrument fromOwner)))
  | createListing {instrument actor x} (offered : s.openListing? instrument = some x)
    : Repeats s (.createListing instrument actor) (.listing x)
        (.error (.market (.alreadyOpen instrument x.id)))
  | transitionListing {id target actor x} (stored : s.listings.get? id = some x)
    (status : x.status = target)
    : Repeats s (.transitionListing id target actor) (.listing x) (.ok (.listing x))
  | transitionBid {id target actor b} (stored : s.bids.get? id = some b)
    (status : b.status = target)
    : Repeats s (.transitionBid id target actor) (.bid b) (.ok (.bid b))
  | acceptBid {id actor a} (stored : s.bids.get? id = some a.selected)
    (status : a.selected.status = .selected)
    : Repeats s (.acceptBid id actor) (.acceptance a) (.error (.market (.notPending id .selected)))
  | rejectBid {id actor b} (stored : s.bids.get? id = some b)
    (status : b.status = .notSelected)
    : Repeats s (.rejectBid id actor) (.bid b) (.error (.market (.notPending id .notSelected)))
  | transitionAsk {id target actor a} (stored : s.asks.get? id = some a)
    (status : a.status = target)
    : Repeats s (.transitionAsk id target actor) (.ask a) (.ok (.ask a))

end Command

-----------------------------------------------------------------------------------------
-- Operations that find their work done
-----------------------------------------------------------------------------------------

namespace Operation

variable {α : Type} {s : Store} {scope : Scope} {scopes : List Scope} {result : Except Failure α}

/-- A question whose answer is known is gone on from with that answer. -/
theorem Seeks.query_bind {q : Query} {a : q.Answer} (answered : s.answer q = a)
    {k : q.Answer → Operation α} (rest : Seeks s scope (k a))
    : Seeks s scope (Operation.query q >>= k) := by
  subst answered
  exact .query rest

theorem Seeks.requireInstrument_bind {id : InstrumentId} {x : Instrument}
    (stored : s.instruments.get? id = some x) {k : Instrument → Operation α}
    (rest : Seeks s scope (k x))
    : Seeks s scope (requireInstrument id >>= k) := by
  rw [requireInstrument_eq, bind_assoc]
  exact .query_bind (q := .instrument id) stored rest

theorem Seeks.requireBid_bind {id : BidId} {b : Bid} (stored : s.bids.get? id = some b)
    {k : Bid → Operation α} (rest : Seeks s scope (k b))
    : Seeks s scope (requireBid id >>= k) := by
  rw [requireBid_eq, bind_assoc]
  exact .query_bind (q := .bid id) stored rest

theorem Quiet.query_bind {q : Query} {a : q.Answer} (answered : s.answer q = a)
    {k : q.Answer → Operation α} (rest : Quiet s scopes (k a) result)
    : Quiet s scopes (Operation.query q >>= k) result := by
  subst answered
  exact .query rest

theorem Quiet.requireInstrument_bind {id : InstrumentId} {x : Instrument}
    (stored : s.instruments.get? id = some x) {k : Instrument → Operation α}
    (rest : Quiet s scopes (k x) result)
    : Quiet s scopes (requireInstrument id >>= k) result := by
  rw [requireInstrument_eq, bind_assoc]
  exact .query_bind (q := .instrument id) stored rest

theorem Quiet.requireListing_bind {id : ListingId} {x : Listing}
    (stored : s.listings.get? id = some x) {k : Listing → Operation α}
    (rest : Quiet s scopes (k x) result)
    : Quiet s scopes (requireListing id >>= k) result := by
  rw [requireListing_eq, bind_assoc]
  exact .query_bind (q := .listing id) stored rest

theorem Quiet.requireBid_bind {id : BidId} {b : Bid} (stored : s.bids.get? id = some b)
    {k : Bid → Operation α} (rest : Quiet s scopes (k b) result)
    : Quiet s scopes (requireBid id >>= k) result := by
  rw [requireBid_eq, bind_assoc]
  exact .query_bind (q := .bid id) stored rest

theorem Quiet.requireAsk_bind {id : AskId} {a : Ask} (stored : s.asks.get? id = some a)
    {k : Ask → Operation α} (rest : Quiet s scopes (k a) result)
    : Quiet s scopes (requireAsk id >>= k) result := by
  rw [requireAsk_eq, bind_assoc]
  exact .query_bind (q := .ask id) stored rest

/-- An instrument that has the status already is read and answered. -/
theorem quiet_moveInstrument {id : InstrumentId} {target : InstrumentStatus} {x : Instrument}
    (actor : Actor) (stored : s.instruments.get? id = some x) (status : x.status = target)
    : Quiet s [.instrument id] (moveInstrument id target actor) (.ok ⟨x, target⟩) := by
  refine .changing ?_ _
  refine .requireInstrument_bind stored ?_
  rw [if_pos status, status]
  exact .done _

/-- An instrument that has an owner is not issued. -/
theorem quiet_recordIssuance {instrument : InstrumentId} {row : Ownership} (owner : CompanyId)
    (owned : s.ledger.active? instrument = some row)
    : Quiet s [.instrument instrument] (recordIssuance instrument owner)
        (.error (.market (.alreadyOwned instrument row.owner))) := by
  exact .changing_fail (.query_bind (q := .activeRow instrument) owned (.fail _)) _

/-- An instrument is not handed over by a company that does not own it. -/
theorem quiet_transfer {instrument : InstrumentId} {fromOwner : CompanyId} {row : Ownership}
    {reason : AcquisitionReason} (toOwner : CompanyId) (handed : reason ≠ .issuance)
    (owned : s.ledger.active? instrument = some row) (other : row.owner ≠ fromOwner)
    : Quiet s [.instrument instrument] (transfer instrument fromOwner toOwner reason)
        (.error (.market (.notOwner instrument fromOwner))) := by
  rw [transfer, if_neg handed]
  have refused : Quiet s [] (requireOwner instrument fromOwner)
      (.error (.market (.notOwner instrument fromOwner))) := by
    refine .query_bind (q := .activeRow instrument) owned ?_
    simp only [bne_iff_ne, if_pos other]
    exact .fail _
  exact .changing_fail (refused.bind_fail _) _

/-- An instrument that is offered is not listed. -/
theorem quiet_createListing {instrument : InstrumentId} {actor : Actor} {x : Instrument}
    {row : Ownership} {other : Listing} (stored : s.instruments.get? instrument = some x)
    (owned : s.ledger.active? instrument = some row) (owner : actor.actsFor row.owner = true)
    (offered : s.openListing? instrument = some other)
    : Quiet s [.instrument instrument] (createListing instrument actor)
        (.error (.market (.alreadyOpen instrument other.id))) := by
  rw [createListing, discard_bind]
  have refused : Quiet s [] (requireUnoffered instrument)
      (.error (.market (.alreadyOpen instrument other.id))) :=
    .query_bind (q := .openListing instrument) offered (.fail _)
  refine .requireInstrument_bind stored (.changing_fail ?_ _)
  refine .query_bind (q := .activeRow instrument) owned ?_
  simp only [owner, Bool.not_true, Bool.false_eq_true, if_false]
  exact refused.bind_fail _

/-- A listing that has the status already is read and answered. -/
theorem quiet_transitionListing {id : ListingId} {target : ListingStatus} {x : Listing}
    (actor : Actor) (stored : s.listings.get? id = some x) (status : x.status = target)
    : Quiet s [] (transitionListing id target actor) (.ok x) := by
  refine .requireListing_bind stored ?_
  rw [if_pos status]
  exact .done x

/-- A bid that has the status already is read and answered. -/
theorem quiet_transitionBid {id : BidId} {target : BidStatus} {b : Bid} (actor : Actor)
    (stored : s.bids.get? id = some b) (status : b.status = target)
    : Quiet s [] (transitionBid id target actor) (.ok b) := by
  refine .requireBid_bind stored ?_
  rw [if_pos status]
  exact .done b

/-- An ask that has the status already is read and answered. -/
theorem quiet_transitionAsk {id : AskId} {target : AskStatus} {a : Ask} (actor : Actor)
    (stored : s.asks.get? id = some a) (status : a.status = target)
    : Quiet s [] (transitionAsk id target actor) (.ok a) := by
  refine .requireAsk_bind stored ?_
  rw [if_pos status]
  exact .done a

/-- A bid that was answered is not answered again. -/
theorem quiet_requireResolvable {id : BidId} {b : Bid} {status : BidStatus} (actor : Actor)
    (stored : s.bids.get? id = some b) (same : b.status = status) (answered : status ≠ .pending)
    : Quiet s [] (requireResolvable id actor) (.error (.market (.notPending id status))) := by
  subst same
  have answered : b.isPending = false := Bool.eq_false_iff.2 (mt Bid.isPending_iff.1 answered)
  refine .requireBid_bind stored ?_
  simp only [answered, Bool.not_false, if_true]
  exact .fail _

theorem quiet_acceptBid {id : BidId} {b : Bid} {status : BidStatus} (actor : Actor)
    (stored : s.bids.get? id = some b) (same : b.status = status) (answered : status ≠ .pending)
    : Quiet s [.listing b.listing] (acceptBid id actor)
        (.error (.market (.notPending id status))) :=
  .requireBid_bind stored
    (.changing_fail ((quiet_requireResolvable actor stored same answered).bind_fail _) _)

theorem quiet_rejectBid {id : BidId} {b : Bid} {status : BidStatus} (actor : Actor)
    (stored : s.bids.get? id = some b) (same : b.status = status) (answered : status ≠ .pending)
    : Quiet s [.listing b.listing] (rejectBid id actor)
        (.error (.market (.notPending id status))) :=
  .requireBid_bind stored
    (.changing_fail ((quiet_requireResolvable actor stored same answered).bind_fail _) _)

end Operation

-----------------------------------------------------------------------------------------
-- Commands that succeeded before
-----------------------------------------------------------------------------------------

namespace Performs

variable {g : Given} {s s' : Store} {outcome : Outcome} {w : Option Write}
  {notice : Option (Happening × Instant)}

/-- An instrument that was moved is stored in its new status. -/
theorem moved_instrument {id : InstrumentId} {target : InstrumentStatus} {actor : Actor}
    (h : Performs g s (.moveInstrument id target actor) outcome w notice) (wrote : s.Wrote w s')
    : ∃ t, outcome = .transition t ∧ s'.instruments.get? id = some t.instrument
        ∧ t.instrument.status = target := by
  cases h with
  | keepInstrument stored same =>
      cases wrote
      exact ⟨_, rfl, stored, same⟩
  | moveInstrument stored other permitted =>
      obtain ⟨-⟩ := Store.write_takes wrote
      obtain rfl := Table.get?_id stored
      exact ⟨_, rfl, Table.get?_put_next stored rfl rfl, rfl⟩

/-- A listing that was moved is stored in its new status. -/
theorem moved_listing {id : ListingId} {target : ListingStatus} {actor : Actor}
    (h : Performs g s (.transitionListing id target actor) outcome w notice)
    (wrote : s.Wrote w s')
    : ∃ x, outcome = .listing x ∧ s'.listings.get? id = some x ∧ x.status = target := by
  cases h with
  | keepListing stored same =>
      cases wrote
      exact ⟨_, rfl, stored, same⟩
  | transitionListing stored other permitted unoffered =>
      obtain ⟨-⟩ := Store.write_takes wrote
      obtain rfl := Table.get?_id stored
      exact ⟨_, rfl, Table.get?_put_next stored rfl rfl, rfl⟩

/-- A bid that was moved is stored in its new status. -/
theorem moved_bid {id : BidId} {target : BidStatus} {actor : Actor}
    (h : Performs g s (.transitionBid id target actor) outcome w notice) (wrote : s.Wrote w s')
    : ∃ b, outcome = .bid b ∧ s'.bids.get? id = some b ∧ b.status = target := by
  cases h with
  | keepBid stored same =>
      cases wrote
      exact ⟨_, rfl, stored, same⟩
  | transitionBid stored other listed isOpen permitted =>
      obtain ⟨-⟩ := Store.write_takes wrote
      obtain rfl := Table.get?_id stored
      exact ⟨_, rfl, Table.get?_put_next stored rfl rfl, rfl⟩

/-- An ask that was moved is stored in its new status. -/
theorem moved_ask {id : AskId} {target : AskStatus} {actor : Actor}
    (h : Performs g s (.transitionAsk id target actor) outcome w notice) (wrote : s.Wrote w s')
    : ∃ a, outcome = .ask a ∧ s'.asks.get? id = some a ∧ a.status = target := by
  cases h with
  | keepAsk stored same =>
      cases wrote
      exact ⟨_, rfl, stored, same⟩
  | transitionAsk stored other listed isOpen permitted =>
      obtain ⟨-⟩ := Store.write_takes wrote
      obtain rfl := Table.get?_id stored
      exact ⟨_, rfl, Table.get?_put_next stored rfl rfl, rfl⟩

/-- An instrument that was issued has its first owner. -/
theorem issued {instrument : InstrumentId} {owner : CompanyId}
    (h : Performs g s (.recordIssuance instrument owner) outcome w notice) (wrote : s.Wrote w s')
    : s'.instruments = s.instruments
      ∧ ∃ row, outcome = .ownership row ∧ s'.ledger.active? instrument = some row
          ∧ row.owner = owner := by
  cases h with
  | recordIssuance unowned =>
      cases Store.write_takes wrote with
      | row inserted =>
          refine ⟨rfl, _, rfl, ?_, rfl⟩
          rw [Ledger.active?_insert inserted rfl]
          exact if_pos rfl

/-- An instrument that was handed over has another owner. -/
theorem handed {instrument : InstrumentId} {fromOwner toOwner : CompanyId}
    {reason : AcquisitionReason} (chained : s.ledger.Chained)
    (h : Performs g s (.transfer instrument fromOwner toOwner reason) outcome w notice)
    (wrote : s.Wrote w s')
    : reason ≠ .issuance ∧ toOwner ≠ fromOwner
      ∧ ∃ row, outcome = .ownership row ∧ s'.ledger.active? instrument = some row
          ∧ row.owner = toOwner := by
  cases h with
  | transfer handed owned giver taker closed =>
      cases Store.write_takes wrote with
      | transfer transferred =>
          have chained := (chained.transfer transferred owned closed (Ne.symm taker) handed).1
          refine ⟨handed, giver ▸ taker, _, rfl, ?_, rfl⟩
          rw [Ledger.active?_transfer chained transferred]
          exact if_pos rfl

/-- An instrument that was listed is offered on behalf of its owner. -/
theorem listed {instrument : InstrumentId} {actor : Actor} (sound : s.Sound)
    (h : Performs g s (.createListing instrument actor) outcome w notice) (wrote : s.Wrote w s')
    : ∃ x row y, s.instruments.get? instrument = some x ∧ actor.actsFor row.owner = true
        ∧ outcome = .listing y ∧ s'.instruments.get? instrument = some x
        ∧ s'.ledger.active? instrument = some row ∧ s'.openListing? instrument = some y := by
  cases h with
  | createListing stored owned owner unoffered =>
      cases Store.write_takes wrote with
      | listing newer alone =>
          refine ⟨_, _, _, stored, owner, rfl, stored, owned, ?_⟩
          have absent := sound.listings.find?_of_first rfl newer
          have offers (id : ListingId)
              : (Listing.start instrument actor g.instant id).offers instrument = true := by
            rw [Listing.offers, Listing.start, beq_self_eq_true]
            rfl
          rw [Store.openListing?] at unoffered
          rw [Store.openListing?, Table.put_rows_of_none absent, List.find?_append, unoffered,
            Option.none_or]
          exact List.find?_cons_of_pos (offers _)

/-- A bid that was accepted is stored as the selected one, on the same listing. -/
theorem accepted {id : BidId} {actor : Actor} (sound : s.Sound)
    (h : Performs g s (.acceptBid id actor) outcome w notice) (wrote : s.Wrote w s')
    : ∃ b a, s.bids.get? id = some b ∧ outcome = .acceptance a
        ∧ s'.bids.get? id = some a.selected ∧ a.selected.status = .selected
        ∧ a.selected.listing = b.listing := by
  cases h with
  | @acceptBid _ _ b listing selected setAside stored pending listed isOpen seller select others =>
      cases Store.write_takes wrote with
      | bids newer =>
          obtain rfl := Table.get?_id stored
          obtain ⟨-, rfl⟩ := Bid.resolve_eq_ok.1 select
          refine ⟨b, _, stored, rfl, ?_, rfl, rfl⟩
          have once := Store.nodup_acceptance sound others
          have found := Table.find?_puts_mem (t := s.bids) once List.mem_cons_self
          exact Table.get?_eq_some.2 ⟨found, Table.isLive_of_touched stored rfl⟩

/-- A bid that was rejected is stored as one that is set aside, on the same listing. -/
theorem rejected {id : BidId} {actor : Actor}
    (h : Performs g s (.rejectBid id actor) outcome w notice) (wrote : s.Wrote w s')
    : ∃ b b', s.bids.get? id = some b ∧ outcome = .bid b' ∧ s'.bids.get? id = some b'
        ∧ b'.status = .notSelected ∧ b'.listing = b.listing := by
  cases h with
  | @rejectBid _ _ b listing b' stored pending listed isOpen seller reject =>
      obtain ⟨-⟩ := Store.write_takes wrote
      obtain rfl := Table.get?_id stored
      obtain ⟨-, rfl⟩ := Bid.resolve_eq_ok.1 reject
      exact ⟨b, _, stored, rfl, Table.get?_put_next stored rfl rfl, rfl, rfl⟩

/-- A command that succeeded finds its work done when it is repeated, and what it locks then it
had to lock before: by cases on the command.
-/
theorem repeats {c : Command} (h : Performs g s c outcome w notice) (wrote : s.Wrote w s')
    (settles : c.settles = true) (sound : s.Sound) (chained : s.ledger.Chained)
    : ∃ answer scopes, c.Repeats s' outcome answer ∧ c.operation.Quiet s' scopes answer
        ∧ ∀ scope ∈ scopes, c.operation.Seeks s scope := by
  cases c with
  | createDraft | updateDraft | placeBid | placeAsk | updateAsk => cases settles
  | transitionInstrument => cases h
  | moveInstrument id target actor =>
      obtain ⟨t, rfl, stored, status⟩ := h.moved_instrument wrote
      refine ⟨_, _, .moveInstrument stored status,
        (Operation.quiet_moveInstrument actor stored status).map _, ?_⟩
      exact List.forall_mem_singleton.2 .lock
  | recordIssuance instrument owner =>
      obtain ⟨-, row, rfl, owned, rfl⟩ := h.issued wrote
      refine ⟨_, _, .recordIssuance owned rfl,
        (Operation.quiet_recordIssuance row.owner owned).map_fail _, ?_⟩
      exact List.forall_mem_singleton.2 .lock
  | transfer instrument fromOwner toOwner reason =>
      obtain ⟨handed, other, row, rfl, owned, rfl⟩ := h.handed chained wrote
      refine ⟨_, _, .transfer owned rfl,
        (Operation.quiet_transfer row.owner handed owned other).map_fail _, ?_⟩
      refine List.forall_mem_singleton.2 ?_
      rw [Command.operation, Operation.transfer, if_neg handed]
      exact .lock
  | createListing instrument actor =>
      obtain ⟨x, row, y, before, owner, rfl, stored, owned, offered⟩ := h.listed sound wrote
      refine ⟨_, _, .createListing offered,
        (Operation.quiet_createListing stored owned owner offered).map_fail _, ?_⟩
      refine List.forall_mem_singleton.2 ?_
      rw [Command.operation, Operation.createListing, Operation.discard_bind]
      exact (Operation.Seeks.requireInstrument_bind before .lock).bind _
  | transitionListing id target actor =>
      obtain ⟨x, rfl, stored, status⟩ := h.moved_listing wrote
      exact ⟨_, _, .transitionListing stored status,
        (Operation.quiet_transitionListing actor stored status).map _, by simp⟩
  | transitionBid id target actor =>
      obtain ⟨b, rfl, stored, status⟩ := h.moved_bid wrote
      exact ⟨_, _, .transitionBid stored status,
        (Operation.quiet_transitionBid actor stored status).map _, by simp⟩
  | acceptBid id actor =>
      obtain ⟨b, a, before, rfl, stored, status, listing⟩ := h.accepted sound wrote
      refine ⟨_, _, .acceptBid stored status,
        (Operation.quiet_acceptBid actor stored status (by decide)).map_fail _, ?_⟩
      refine List.forall_mem_singleton.2 ?_
      rw [listing]
      exact (Operation.Seeks.requireBid_bind before .lock).bind _
  | rejectBid id actor =>
      obtain ⟨b, b', before, rfl, stored, status, listing⟩ := h.rejected wrote
      refine ⟨_, _, .rejectBid stored status,
        (Operation.quiet_rejectBid actor stored status (by decide)).map_fail _, ?_⟩
      refine List.forall_mem_singleton.2 ?_
      rw [listing]
      exact (Operation.Seeks.requireBid_bind before .lock).bind _
  | transitionAsk id target actor =>
      obtain ⟨a, rfl, stored, status⟩ := h.moved_ask wrote
      exact ⟨_, _, .transitionAsk stored status,
        (Operation.quiet_transitionAsk actor stored status).map _, by simp⟩

end Performs

end DebtMarket
