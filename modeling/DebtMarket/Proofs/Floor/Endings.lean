import DebtMarket.Proofs.Command.Admission
import DebtMarket.Proofs.Floor.Consistency

/-! Endings. How a command may end depends on what it has read and drawn before. A command
that creates something has drawn an identifier for it, unless a rule of the market ends it
before; and a command that closes a row or resolves bids reads the clock only after it has
found them open and pending, so no rule ends it any more once it has read the clock.
-/

namespace DebtMarket

namespace Operation

variable {α β : Type}

/-- An operation that has read and drawn some things already ends in a way that is allowed
after what it has read and drawn by then, whatever markets reply to it.
-/
inductive Ends (P : Drawn → Except Failure Unit → Prop) : Drawn → Operation α → Prop
  | done {d} (a : α) (allowed : P d (.ok ())) : Ends P d (done a)
  | fail {d failure} (allowed : P d (.error failure)) : Ends P d (fail failure)
  | call {d c next}
    (rest : ∀ m : Market, Ends P (d.after c (m.answer c).1) (next (m.answer c).1))
    : Ends P d (call c next)
  | lock {d scope next} (rest : Ends P d next) : Ends P d (lock scope next)
  | unlock {d next} (rest : Ends P d next) : Ends P d (unlock next)

section Rules

variable {P : Drawn → Except Failure Unit → Prop} {d : Drawn} {p : Operation α}

/-- Where everything is allowed every operation ends so, by induction on it. -/
theorem Ends.of_forall (allowed : ∀ d result, P d result) (p : Operation α)
    : Ends P d p := by
  induction p generalizing d with
  | done a => exact .done a (allowed _ _)
  | fail failure => exact .fail (allowed _ _)
  | call c next ih => exact .call fun m => ih _
  | lock scope next ih => exact .lock ih
  | unlock next ih => exact .unlock ih

theorem Ends.of_call {c : Call} {next : c.Reply → Operation α}
    (h : Ends P d (Operation.call c next)) (m : Market)
    : Ends P (d.after c (m.answer c).1) (next (m.answer c).1) := by
  cases h with
  | call rest => exact rest m

theorem Ends.of_lock {scope : Scope} {next : Operation α}
    (h : Ends P d (Operation.lock scope next))
    : Ends P d next := by
  cases h with
  | lock rest => exact rest

theorem Ends.of_unlock {next : Operation α} (h : Ends P d (Operation.unlock next))
    : Ends P d next := by
  cases h with
  | unlock rest => exact rest

/-- An operation that has come to its result already has come to one that is allowed, by
induction on the operation.
-/
theorem Ends.of_verdict (h : Ends P d p) (m : Market) {result : Except Failure α}
    (decided : p.verdict = some result)
    : P d (result.map fun _ => ()) := by
  induction h with
  | done a allowed =>
      cases decided
      exact allowed
  | fail allowed =>
      cases decided
      exact allowed
  | @call d c next rest ih =>
      cases c with
      | publish happening time => exact ih m decided
      | _ => cases decided
  | lock rest ih => cases decided
  | unlock rest ih => exact ih decided

-----------------------------------------------------------------------------------------
-- Locks around an operation and operations after it
-----------------------------------------------------------------------------------------

/-- An operation may be followed by one that ends well wherever the first one may succeed,
by induction on the first one.
-/
theorem Ends.bind (h : Ends P d p) {f : α → Operation β}
    (hf : ∀ d a, P d (.ok ()) → Ends P d (f a))
    : Ends P d (p.bind f) := by
  induction h with
  | done a allowed => exact hf _ a allowed
  | fail allowed => exact .fail allowed
  | call rest ih => exact .call ih
  | lock rest ih => exact .lock ih
  | unlock rest ih => exact .unlock ih

theorem Ends.map (h : Ends P d p) (f : α → β) : Ends P d (f <$> p) :=
  h.bind fun _ a allowed => .done (f a) allowed

theorem Ends.releasing (h : Ends P d p) : Ends P d p.releasing := by
  induction h with
  | done a allowed => exact .unlock (.done a allowed)
  | fail allowed => exact .unlock (.fail allowed)
  | call rest ih => exact .call ih
  | lock rest ih => exact .lock ih
  | unlock rest ih => exact .unlock ih

/-- To make a change known ends nothing, by cases on what there is to tell. -/
theorem ends_announce (allowed : P d (.ok ())) (change : Change α)
    : Ends P d (announce change) := by
  obtain ⟨result, notice⟩ := change
  cases notice with
  | none => exact .done result allowed
  | some told => exact .call fun _ => .done result allowed

theorem Ends.changing {scope : Scope} {body : Operation (Change α)} (h : Ends P d body)
    : Ends P d (changing scope body) :=
  .lock (h.releasing.bind fun _ change allowed => ends_announce allowed change)

-----------------------------------------------------------------------------------------
-- Steps in front of an operation
-----------------------------------------------------------------------------------------

theorem Ends.refuse (refuses : ∀ e, P d (.error (.market e))) (e : MarketError)
    : Ends P d (Operation.refuse e : Operation α) :=
  .fail (refuses e)

theorem Ends.ite {c : Prop} [Decidable c] {p q : Operation α} (hp : c → Ends P d p)
    (hq : ¬c → Ends P d q)
    : Ends P d (if c then p else q) := by
  split
  · next h => exact hp h
  · next h => exact hq h

/-- Either branch may be followed by the same operation. -/
theorem Ends.ite_bind {c : Prop} [Decidable c] {p q : Operation β} {k : β → Operation α}
    (hp : c → Ends P d (p >>= k)) (hq : ¬c → Ends P d (q >>= k))
    : Ends P d ((if c then p else q) >>= k) := by
  split
  · next h => exact hp h
  · next h => exact hq h

theorem Ends.query_bind {q : Query} {k : q.Answer → Operation α}
    (rest : ∀ s : Store, Ends P d (k (s.answer q)))
    : Ends P d (Operation.query q >>= k) :=
  .call fun m => rest m.store

theorem Ends.now_bind {k : Instant → Operation α}
    (rest : ∀ time, Ends P (d.reading time) (k time))
    : Ends P d (Operation.now >>= k) :=
  .call fun m => rest m.clock

theorem Ends.draw_bind {kind : IdKind} {k : Id kind → Operation α}
    (rest : ∀ id : Id kind, Ends P (d.drawing id) (k id))
    : Ends P d (Operation.draw kind >>= k) :=
  .call fun m => rest (m.draw kind).1

theorem Ends.discard_bind {p : Operation β} {k : PUnit → Operation α}
    (h : Ends P d (p >>= fun _ => k ⟨⟩))
    : Ends P d (discard p >>= k) := by
  rw [Operation.discard_bind]
  exact h

/-- A rule that is met goes on, and one that is not may have to be allowed to refuse. -/
theorem Ends.check_bind {outcome : Except MarketError β} {k : β → Operation α}
    (refuses : ∀ e, outcome = .error e → P d (.error (.market e)))
    (rest : ∀ b, Ends P d (k b))
    : Ends P d (check outcome >>= k) := by
  cases outcome with
  | error e => exact .fail (refuses e rfl)
  | ok b => exact rest b

/-- A write may be refused by the store, and be followed by the end of an operation. -/
theorem Ends.save_bind {w : Write} {k : Unit → Operation α}
    (refuses : ∀ e, P d (.error (.store e))) (rest : Ends P d (k ()))
    : Ends P d (save w >>= k) := by
  rw [Operation.save_bind]
  refine .call fun m => ?_
  cases (m.answer (.write w)).1 with
  | error e => exact .fail (refuses e)
  | ok u => exact rest

/-- What was found is gone on from; otherwise the operation is refused. -/
theorem Ends.found_bind {found : Option β} {e : MarketError} {k : β → Operation α}
    (refuses : ∀ e, P d (.error (.market e))) (rest : ∀ b, Ends P d (k b))
    : Ends P d (orRefuse found e >>= k) := by
  cases found with
  | none => exact .refuse refuses e
  | some b => exact rest b

theorem Ends.requireInstrument_bind {id : InstrumentId} {k : Instrument → Operation α}
    (refuses : ∀ e, P d (.error (.market e))) (rest : ∀ x, Ends P d (k x))
    : Ends P d (requireInstrument id >>= k) := by
  rw [requireInstrument_eq, bind_assoc]
  exact .query_bind fun s => .found_bind refuses rest

theorem Ends.requireOpen_bind {id : ListingId} {k : Listing → Operation α}
    (refuses : ∀ e, P d (.error (.market e))) (rest : ∀ x, Ends P d (k x))
    : Ends P d (requireOpen id >>= k) := by
  rw [requireOpen, requireListing_eq, bind_assoc, bind_assoc]
  refine .query_bind fun s => .found_bind refuses fun x => ?_
  exact .ite_bind (fun _ => .refuse refuses _) fun _ => rest x

theorem Ends.requireUnoffered_bind {instrument : InstrumentId} {k : Unit → Operation α}
    (refuses : ∀ e, P d (.error (.market e))) (rest : Ends P d (k ()))
    : Ends P d (requireUnoffered instrument >>= k) := by
  rw [requireUnoffered, bind_assoc]
  refine .query_bind fun s => ?_
  cases s.answer (.openListing instrument) with
  | none => exact rest
  | some other => exact .refuse refuses _

/-- An operation goes on from the open row of an instrument. -/
theorem Ends.requireOwner_bind {instrument : InstrumentId} {owner : CompanyId}
    {k : Ownership → Operation α} (refuses : ∀ e, P d (.error (.market e)))
    (rest : ∀ row, row.isActive = true → Ends P d (k row))
    : Ends P d (requireOwner instrument owner >>= k) := by
  rw [requireOwner, bind_assoc]
  refine .query_bind fun s => ?_
  simp only [Store.answer]
  cases active : s.ledger.active? instrument with
  | none => exact .refuse refuses _
  | some row =>
      refine .ite_bind (fun _ => .refuse refuses _) fun _ => ?_
      exact rest row (Ledger.active?_isActive active)

theorem Ends.requireBid_bind {id : BidId} {k : Bid → Operation α}
    (refuses : ∀ e, P d (.error (.market e))) (rest : ∀ b, Ends P d (k b))
    : Ends P d (requireBid id >>= k) := by
  rw [requireBid_eq, bind_assoc]
  exact .query_bind fun s => .found_bind refuses rest

/-- An operation goes on from a pending bid. -/
theorem Ends.requireResolvable_bind {id : BidId} {actor : Actor} {k : Bid → Operation α}
    (refuses : ∀ e, P d (.error (.market e)))
    (rest : ∀ b, b.isPending = true → Ends P d (k b))
    : Ends P d (requireResolvable id actor >>= k) := by
  rw [requireResolvable, bind_assoc]
  refine .requireBid_bind refuses fun b => ?_
  refine .ite_bind (fun _ => .refuse refuses _) fun pending => ?_
  rw [bind_assoc]
  refine .requireOpen_bind refuses fun listing => ?_
  refine .ite_bind (fun _ => .refuse refuses _) fun _ => ?_
  exact rest b (by simpa using pending)

end Rules

end Operation

-----------------------------------------------------------------------------------------
-- How commands may end
-----------------------------------------------------------------------------------------

namespace Command

/-- Whether a command closes an open row or resolves pending bids. -/
def resolves : Command → Bool
  | transfer .. | acceptBid .. | rejectBid .. => true
  | _ => false

/-- A way in which a command may end after it has read and drawn what it did. -/
structure MayEnd (c : Command) (d : Drawn) (result : Except Failure Unit) : Prop where
  drew
    : ∀ kind, c.creates? = some kind → d.uuid kind = none
      → ∃ e, result = .error (.market e)
  read : c.resolves = true → d.instant ≠ none → ∀ e, result ≠ .error (.market e)

variable {c : Command} {d : Drawn}

/-- A command that has drawn an identifier of the kind that it creates has all it needs. -/
theorem drew_drawing {kind : IdKind} (creates : c.creates? = some kind) (id : Id kind)
    : ∀ other, c.creates? = some other → (d.drawing id).uuid other ≠ none := by
  intro other also
  cases Option.some.inj (creates.symm.trans also)
  simp [Drawn.drawing]

/-- Any rule may end a command that has not read the clock yet, or resolves nothing. -/
theorem MayEnd.refused (unread : c.resolves = true → d.instant = none) (e : MarketError)
    : c.MayEnd d (.error (.market e)) where
  drew := fun _ _ _ => ⟨e, rfl⟩
  read := fun resolves reads => absurd (unread resolves) reads

/-- The store may end a command that has drawn all it needs. -/
theorem MayEnd.failed (drew : ∀ kind, c.creates? = some kind → d.uuid kind ≠ none)
    (e : StoreError)
    : c.MayEnd d (.error (.store e)) where
  drew := fun kind creates undrawn => absurd undrawn (drew kind creates)
  read := fun _ _ _ => nofun

/-- A command that has drawn all it needs may succeed. -/
theorem MayEnd.succeeded (drew : ∀ kind, c.creates? = some kind → d.uuid kind ≠ none)
    : c.MayEnd d (.ok ()) where
  drew := fun kind creates undrawn => absurd undrawn (drew kind creates)
  read := fun _ _ _ => nofun

end Command

namespace Operation

variable {c : Command} {d : Drawn} {α : Type}

/-- A command that has drawn all it needs may end with its write. -/
theorem ends_save (drew : ∀ kind, c.creates? = some kind → d.uuid kind ≠ none) (w : Write)
    (a : α)
    : Ends c.MayEnd d (save w >>= fun _ => Pure.pure a) :=
  .save_bind (Command.MayEnd.failed drew) (.done a (.succeeded drew))

theorem ends_createDraft (actor : Actor) (terms : InstrumentTerms)
    : Ends (Command.createDraft actor terms).MayEnd .nothing (createDraft actor terms) := by
  refine .now_bind fun now => ?_
  apply Ends.check_bind
  · intro e _
    exact .refused (fun resolves => by cases resolves) e
  intro make
  refine .draw_bind fun id => ?_
  have drew := Command.drew_drawing (c := .createDraft actor terms)
    (d := Drawn.nothing.reading now) rfl id
  exact .save_bind (Command.MayEnd.failed drew) (ends_announce (.succeeded drew) _)

theorem ends_recordIssuance (instrument : InstrumentId) (owner : CompanyId)
    : Ends (Command.recordIssuance instrument owner).MayEnd .nothing
        (recordIssuance instrument owner) := by
  refine .changing (.query_bind fun s => ?_)
  cases s.answer (.activeRow instrument) with
  | some active => exact .refuse (Command.MayEnd.refused fun _ => rfl) _
  | none =>
      refine .now_bind fun now => .draw_bind fun id => ?_
      exact ends_save (Command.drew_drawing rfl id) _ _

/-- An open row is closed without a refusal. -/
theorem ends_transfer (instrument : InstrumentId) (fromOwner toOwner : CompanyId)
    (reason : AcquisitionReason)
    : Ends (Command.transfer instrument fromOwner toOwner reason).MayEnd .nothing
        (transfer instrument fromOwner toOwner reason) := by
  have refuses := Command.MayEnd.refused (c := .transfer instrument fromOwner toOwner reason)
    (d := .nothing) fun _ => rfl
  refine .ite (fun _ => .refuse refuses _) fun _ => .changing ?_
  apply Ends.requireOwner_bind refuses
  intro active isOpen
  refine .ite (fun _ => .refuse refuses _) fun _ => .now_bind fun now => ?_
  apply Ends.check_bind
  · intro e refused
    rw [Ownership.relinquish_of_isActive isOpen] at refused
    cases refused
  intro closing
  refine .draw_bind fun id => ?_
  exact ends_save (Command.drew_drawing rfl id) _ _

theorem ends_createListing (instrument : InstrumentId) (actor : Actor)
    : Ends (Command.createListing instrument actor).MayEnd .nothing
        (createListing instrument actor) := by
  have refuses := Command.MayEnd.refused (c := .createListing instrument actor)
    (d := .nothing) fun _ => rfl
  refine .discard_bind (.requireInstrument_bind refuses fun x => ?_)
  refine .changing (.query_bind fun s => ?_)
  cases s.answer (.activeRow instrument) with
  | none => exact .refuse refuses _
  | some row =>
      refine .ite (fun _ => .refuse refuses _) fun _ => ?_
      apply Ends.requireUnoffered_bind refuses
      refine .now_bind fun now => .draw_bind fun id => ?_
      exact ends_save (Command.drew_drawing rfl id) _ _

theorem ends_placeBid (actor : Actor) (request : BidRequest)
    : Ends (Command.placeBid actor request).MayEnd .nothing (placeBid actor request) := by
  have refuses := Command.MayEnd.refused (c := .placeBid actor request) (d := .nothing)
    fun _ => rfl
  refine .changing (.requireOpen_bind refuses fun listing => ?_)
  refine .ite (fun _ => .refuse refuses _) fun _ => ?_
  refine .check_bind (fun e _ => refuses e) fun amount => ?_
  refine .now_bind fun now => .draw_bind fun id => ?_
  exact ends_save (Command.drew_drawing rfl id) _ _

/-- A pending bid is selected, and the other pending bids are set aside, without a refusal. -/
theorem ends_acceptBid (id : BidId) (actor : Actor)
    : Ends (Command.acceptBid id actor).MayEnd .nothing (acceptBid id actor) := by
  have refuses := Command.MayEnd.refused (c := .acceptBid id actor) (d := .nothing)
    fun _ => rfl
  refine .requireBid_bind refuses fun seen => .changing ?_
  apply Ends.requireResolvable_bind refuses
  intro b pending
  refine .now_bind fun now => ?_
  apply Ends.check_bind
  · intro e refused
    rw [Bid.select, Bid.resolve_of_pending pending] at refused
    cases refused
  intro selected
  refine .query_bind fun s => ?_
  apply Ends.check_bind
  · intro e refused
    have pending : ∀ other ∈ (s.answer (.bidsFor seen.listing)).filter
        (fun other => other.id != id && other.isPending), other.isPending = true := by
      intro other member
      exact (Bool.and_eq_true_iff.1 (List.mem_filter.1 member).2).2
    rw [Bid.setAside_of_pending pending] at refused
    cases refused
  intro setAside
  refine ends_save ?_ _ _
  rintro kind ⟨⟩

/-- A pending bid is set aside without a refusal. -/
theorem ends_rejectBid (id : BidId) (actor : Actor)
    : Ends (Command.rejectBid id actor).MayEnd .nothing (rejectBid id actor) := by
  have refuses := Command.MayEnd.refused (c := .rejectBid id actor) (d := .nothing)
    fun _ => rfl
  refine .requireBid_bind refuses fun seen => .changing ?_
  apply Ends.requireResolvable_bind refuses
  intro b pending
  refine .now_bind fun now => ?_
  apply Ends.check_bind
  · intro e refused
    rw [Bid.setAside, Bid.resolve_of_pending pending] at refused
    cases refused
  intro b'
  refine ends_save ?_ _ _
  rintro kind ⟨⟩

theorem ends_placeAsk (actor : Actor) (request : AskRequest)
    : Ends (Command.placeAsk actor request).MayEnd .nothing (placeAsk actor request) := by
  have refuses {d : Drawn} := Command.MayEnd.refused (c := .placeAsk actor request) (d := d)
    fun resolves => by cases resolves
  refine .changing (.requireOpen_bind refuses fun listing => ?_)
  refine .ite (fun _ => .refuse refuses _) fun _ => .now_bind fun now => ?_
  refine .check_bind (fun e _ => refuses e) fun amount => ?_
  refine .check_bind (fun e _ => refuses e) fun make => ?_
  refine .draw_bind fun id => ?_
  exact ends_save (Command.drew_drawing rfl id) _ _

end Operation

/-- Every command ends in one of its ways, by cases on it: one that neither creates anything
nor resolves anything may end anyhow.
-/
theorem Command.ends_opening (c : Command)
    : Operation.Ends c.opening.MayEnd .nothing c.opening.operation := by
  cases c with
  | createDraft actor terms => exact (Operation.ends_createDraft _ _).map _
  | recordIssuance instrument owner => exact (Operation.ends_recordIssuance _ _).map _
  | transfer instrument fromOwner toOwner reason =>
      exact (Operation.ends_transfer _ _ _ _).map _
  | createListing instrument actor => exact (Operation.ends_createListing _ _).map _
  | placeBid actor request => exact (Operation.ends_placeBid _ _).map _
  | acceptBid id actor => exact (Operation.ends_acceptBid _ _).map _
  | rejectBid id actor => exact (Operation.ends_rejectBid _ _).map _
  | placeAsk actor request => exact (Operation.ends_placeAsk _ _).map _
  | _ => exact .of_forall (fun d result => ⟨nofun, nofun⟩) _

-----------------------------------------------------------------------------------------
-- How tasks may end
-----------------------------------------------------------------------------------------

namespace Task

/-- A task that is bound to end in one of the ways of its command. -/
def Bound (t : Task) : Prop :=
  ∀ p, t.rest? = some p → p.Ends t.command.MayEnd t.drawn

variable {t : Task} {m : Market} {p : Operation Outcome}

theorem bound_of_rest (rest : t.rest? = some p) (ends : p.Ends t.command.MayEnd t.drawn)
    : t.Bound := by
  intro q same
  cases rest.symm.trans same
  exact ends

theorem bound_start (c : Command) : (start c).Bound :=
  bound_of_rest rfl c.ends_opening

/-- Every step keeps a task bound, by cases on it. -/
theorem Bound.step (h : t.Bound) (m : Market) : (t.step m).1.Bound := by
  have steps := t.steps_step m
  generalize (t.step m).1 = t', (t.step m).2 = m' at steps ⊢
  cases steps with
  | idle stage locks same =>
      intro p rest
      rw [same] at rest
      exact h p rest
  | call rest => exact bound_of_rest rfl ((h _ rest).of_call m)
  | lock rest => exact bound_of_rest rfl (h _ rest).of_lock
  | unlock locks rest => exact bound_of_rest rfl (h _ rest).of_unlock

/-- Tasks are bound from their start, whatever comes next for them. -/
theorem kept_bound : Kept Bound where
  start := bound_start
  continued := fun _ h => h
  step := fun _ m h => h.step m
  drop := fun t m h => by
    rcases t.drop_cases m with same | gone
    · rw [same]
      exact h
    · rw [gone]
      nofun

/-- A task that is decided has come to one of the ways in which its command may end. -/
theorem Bound.mayEnd (h : t.Bound) (m : Market) {result : Except Failure Outcome}
    (decided : t.verdict? = some result)
    : t.command.MayEnd t.drawn (result.map fun _ => ()) := by
  obtain ⟨p, rest, decided⟩ := Option.bind_eq_some_iff.1 decided
  exact (h p rest).of_verdict m decided

end Task

end DebtMarket
