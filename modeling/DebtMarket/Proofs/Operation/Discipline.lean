import DebtMarket.Proofs.Operation.Effect

/-! The discipline of operations. Every command reads the clock at most once and draws at
most one identifier of a kind, locks instruments before listings and no scope twice, and
ends soon after its only write: from there on it gives up its locks, makes the change known
and is done, or, if the write was refused, gives up its locks and fails.
-/

namespace DebtMarket

namespace Scope

/-- Instruments come before listings in the order in which scopes are locked. -/
def rank : Scope → Nat
  | instrument _ => 0
  | listing _ => 1

/-- A scope may be locked while only scopes of smaller rank are. -/
def Fits (scope : Scope) (held : List Scope) : Prop :=
  ∀ other ∈ held, other.rank < scope.rank

/-- Any scope may be locked while nothing is. -/
theorem fits_nil (scope : Scope) : scope.Fits [] :=
  fun _ member => absurd member List.not_mem_nil

/-- A scope that may be locked is not locked yet, as no rank is below itself. -/
theorem Fits.not_mem {scope : Scope} {held : List Scope} (h : scope.Fits held)
    : scope ∉ held :=
  fun member => Nat.lt_irrefl _ (h scope member)

end Scope

/-- What an operation has read from the clock and drawn so far. -/
structure Drawn where
  instant : Option Instant
  uuid : IdKind → Option Uuid

namespace Drawn

/-- Nothing was read or drawn yet. -/
def nothing : Drawn :=
  ⟨none, fun _ => none⟩

/-- After the clock was read. -/
def reading (d : Drawn) (time : Instant) : Drawn :=
  { d with instant := some time }

/-- After an identifier was drawn. -/
def drawing (d : Drawn) {kind : IdKind} (id : Id kind) : Drawn :=
  { d with uuid := fun other => if other = kind then some id.uuid else d.uuid other }

end Drawn

/-- What is given agrees with what was read and drawn. -/
structure Given.Agrees (g : Given) (d : Drawn) : Prop where
  instant : ∀ time, d.instant = some time → g.instant = time
  uuid : ∀ kind uuid, d.uuid kind = some uuid → g.uuid kind = uuid

/-- What was read and drawn, and whatever else is still needed. -/
def Drawn.given (d : Drawn) (clock : Instant) : Given :=
  ⟨d.instant.getD clock, fun kind => (d.uuid kind).getD ⟨0⟩⟩

theorem Drawn.agrees_given (d : Drawn) (clock : Instant) : (d.given clock).Agrees d where
  instant := fun time read => by rw [Drawn.given, read, Option.getD_some]
  uuid := fun kind uuid drew => by simp only [Drawn.given, drew, Option.getD_some]

namespace Operation

variable {α β : Type}

/-- An operation that gives up the locks it took, last taken first, makes known what it did
if all went well, and ends.
-/
inductive Closing : (well : Bool) → (taken : List Scope) → Operation α → Prop
  | done (a : α) : Closing true [] (done a)
  | fail (failure : Failure) : Closing false [] (fail failure)
  | publish {taken happening time next} (rest : Closing true taken (next ()))
    : Closing true taken (call (.publish happening time) next)
  | unlock {well scope taken next} (rest : Closing well taken next)
    : Closing well (scope :: taken) (unlock next)

/-- An operation that keeps the discipline while it keeps some scopes locked to its end and
has taken others itself, last taken first, after it read and drew what it did.
-/
inductive Orderly (kept : List Scope) : List Scope → Drawn → Operation α → Prop
  | close {well taken d p} (closing : Closing well taken p) : Orderly kept taken d p
  | now {taken d next} (unread : d.instant = none)
    (rest : ∀ time, Orderly kept taken (d.reading time) (next time))
    : Orderly kept taken d (call .now next)
  | draw {taken d kind next} (named : kind ≠ .event) (undrawn : d.uuid kind = none)
    (rest : ∀ id, Orderly kept taken (d.drawing id) (next id))
    : Orderly kept taken d (call (.draw kind) next)
  | query {taken d q next} (rest : ∀ reply, Orderly kept taken d (next reply))
    : Orderly kept taken d (call (.query q) next)
  | write {taken d w next} (refused : ∀ e, Closing false taken (next (.error e)))
    (accepted : Closing true taken (next (.ok ())))
    : Orderly kept taken d (call (.write w) next)
  | lock {taken d scope next} (fits : scope.Fits (taken ++ kept))
    (rest : Orderly kept (scope :: taken) d next)
    : Orderly kept taken d (lock scope next)

-----------------------------------------------------------------------------------------
-- What the next step of an orderly operation tells about it
-----------------------------------------------------------------------------------------

section Inversion

variable {kept taken : List Scope} {d : Drawn}

theorem Orderly.of_now {next : Instant → Operation α}
    (h : Orderly kept taken d (call .now next))
    : d.instant = none ∧ ∀ time, Orderly kept taken (d.reading time) (next time) := by
  cases h with
  | close closing => cases closing
  | now unread rest => exact ⟨unread, rest⟩

theorem Orderly.of_draw {kind : IdKind} {next : Id kind → Operation α}
    (h : Orderly kept taken d (call (.draw kind) next))
    : d.uuid kind = none ∧ ∀ id, Orderly kept taken (d.drawing id) (next id) := by
  cases h with
  | close closing => cases closing
  | draw named undrawn rest => exact ⟨undrawn, rest⟩

theorem Orderly.of_query {q : Query} {next : q.Answer → Operation α}
    (h : Orderly kept taken d (call (.query q) next)) (reply : q.Answer)
    : Orderly kept taken d (next reply) := by
  cases h with
  | close closing => cases closing
  | query rest => exact rest reply

theorem Orderly.of_write {w : Write} {next : Except StoreError Unit → Operation α}
    (h : Orderly kept taken d (call (.write w) next))
    : (∀ e, Closing false taken (next (.error e))) ∧ Closing true taken (next (.ok ())) := by
  cases h with
  | close closing => cases closing
  | write refused accepted => exact ⟨refused, accepted⟩

theorem Orderly.of_publish {happening : Happening} {time : Instant}
    {next : Unit → Operation α}
    (h : Orderly kept taken d (call (.publish happening time) next))
    : Closing true taken (next ()) := by
  cases h with
  | close closing =>
      cases closing with
      | publish rest => exact rest

theorem Orderly.of_lock {scope : Scope} {next : Operation α}
    (h : Orderly kept taken d (Operation.lock scope next))
    : scope.Fits (taken ++ kept) ∧ Orderly kept (scope :: taken) d next := by
  cases h with
  | close closing => cases closing
  | lock fits rest => exact ⟨fits, rest⟩

theorem Orderly.of_unlock {next : Operation α} (h : Orderly kept taken d (unlock next))
    : ∃ well scope rest, taken = scope :: rest ∧ Closing well rest next := by
  cases h with
  | close closing =>
      cases closing with
      | unlock rest => exact ⟨_, _, _, rfl, rest⟩

theorem Orderly.of_done {a : α} (h : Orderly kept taken d (done a)) : taken = [] := by
  cases h with
  | close closing =>
      cases closing
      rfl

theorem Orderly.of_fail {failure : Failure}
    (h : Orderly kept taken d (fail failure : Operation α))
    : taken = [] := by
  cases h with
  | close closing =>
      cases closing
      rfl

end Inversion

-----------------------------------------------------------------------------------------
-- Locks around an operation and operations after it
-----------------------------------------------------------------------------------------

/-- Closing goes on by giving up one more lock, by induction on it. -/
theorem Closing.releasing {well : Bool} {taken : List Scope} {p : Operation α}
    (h : Closing well taken p) (scope : Scope)
    : Closing well (taken ++ [scope]) p.releasing := by
  induction h with
  | done a => exact .unlock (.done a)
  | fail failure => exact .unlock (.fail failure)
  | publish _ ih => exact .publish ih
  | unlock _ ih => exact .unlock ih

/-- Closing goes on by what closes from its result, by induction on it. -/
theorem Closing.bind {well : Bool} {taken : List Scope} {p : Operation α}
    (h : Closing well taken p) {f : α → Operation β} (hf : ∀ a, Closing true [] (f a))
    : Closing well taken (p.bind f) := by
  induction h with
  | done a => exact hf a
  | fail failure => exact .fail failure
  | publish _ ih => exact .publish ih
  | unlock _ ih => exact .unlock ih

/-- Making a change known is all that is left to do. -/
theorem closing_announce (change : Change α) : Closing true [] (announce change) := by
  obtain ⟨result, notice⟩ := change
  cases notice with
  | none => exact .done result
  | some notice => exact .publish (.done result)

/-- An operation under one more lock gives that one up last, by induction on it. -/
theorem Orderly.releasing {scope : Scope} {kept taken : List Scope} {d : Drawn}
    {p : Operation α} (h : Orderly (scope :: kept) taken d p)
    : Orderly kept (taken ++ [scope]) d p.releasing := by
  induction h with
  | close closing => exact .close (closing.releasing scope)
  | now unread _ ih => exact .now unread ih
  | draw named undrawn _ ih => exact .draw named undrawn ih
  | query _ ih => exact .query ih
  | write refused accepted =>
      exact .write (fun e => (refused e).releasing scope) (accepted.releasing scope)
  | lock fits _ ih => exact .lock (by simpa using fits) ih

/-- An operation may be followed by what only closes, by induction on it. -/
theorem Orderly.bind {kept taken : List Scope} {d : Drawn} {p : Operation α}
    (h : Orderly kept taken d p) {f : α → Operation β} (hf : ∀ a, Closing true [] (f a))
    : Orderly kept taken d (p.bind f) := by
  induction h with
  | close closing => exact .close (closing.bind hf)
  | now unread _ ih => exact .now unread ih
  | draw named undrawn _ ih => exact .draw named undrawn ih
  | query _ ih => exact .query ih
  | write refused accepted =>
      exact .write (fun e => (refused e).bind hf) (accepted.bind hf)
  | lock fits _ ih => exact .lock fits ih

/-- A result may be renamed. -/
theorem Orderly.map {kept taken : List Scope} {d : Drawn} {p : Operation α}
    (h : Orderly kept taken d p) (f : α → β)
    : Orderly kept taken d (f <$> p) :=
  h.bind fun a => .done (f a)

/-- A body is run under a lock that it does not take itself. -/
theorem Orderly.locking {scope : Scope} {kept : List Scope} {d : Drawn}
    {body : Operation α} (fits : scope.Fits kept) (h : Orderly (scope :: kept) [] d body)
    : Orderly kept [] d (locking scope body) :=
  .lock fits h.releasing

/-- A change is made under a lock and made known afterwards. -/
theorem Orderly.changing {scope : Scope} {kept : List Scope} {d : Drawn}
    {body : Operation (Change α)} (fits : scope.Fits kept)
    (h : Orderly (scope :: kept) [] d body)
    : Orderly kept [] d (changing scope body) :=
  (Orderly.locking fits h).bind closing_announce

-----------------------------------------------------------------------------------------
-- Steps in front of an operation
-----------------------------------------------------------------------------------------

section Steps

variable {kept : List Scope} {d : Drawn}

theorem Orderly.pure (a : α) : Orderly kept [] d (Pure.pure a : Operation α) :=
  .close (.done a)

theorem Orderly.refuse (e : MarketError) : Orderly kept [] d (Operation.refuse e : Operation α) :=
  .close (.fail _)

theorem Orderly.ite {c : Prop} [Decidable c] {p q : Operation α}
    (hp : Orderly kept [] d p) (hq : Orderly kept [] d q)
    : Orderly kept [] d (if c then p else q) := by
  split
  · exact hp
  · exact hq

theorem Orderly.query_bind {q : Query} {k : q.Answer → Operation α}
    (rest : ∀ reply, Orderly kept [] d (k reply))
    : Orderly kept [] d (Operation.query q >>= k) :=
  .query rest

theorem Orderly.now_bind {k : Instant → Operation α} (unread : d.instant = none)
    (rest : ∀ time, Orderly kept [] (d.reading time) (k time))
    : Orderly kept [] d (Operation.now >>= k) :=
  .now unread rest

theorem Orderly.draw_bind {kind : IdKind} {k : Id kind → Operation α}
    (named : kind ≠ .event) (undrawn : d.uuid kind = none)
    (rest : ∀ id, Orderly kept [] (d.drawing id) (k id))
    : Orderly kept [] d (Operation.draw kind >>= k) :=
  .draw named undrawn rest

/-- A rule either refuses or goes on, by cases on its outcome. -/
theorem Orderly.check_bind {outcome : Except MarketError α} {k : α → Operation β}
    (rest : ∀ a, Orderly kept [] d (k a))
    : Orderly kept [] d (check outcome >>= k) := by
  cases outcome with
  | error e => exact Orderly.refuse e
  | ok a => exact rest a

theorem Orderly.discard_bind {p : Operation α} {k : PUnit → Operation β}
    (h : Orderly kept [] d (p >>= fun _ => k ⟨⟩))
    : Orderly kept [] d (discard p >>= k) := by
  rw [Operation.discard_bind]
  exact h

/-- A write is the end of an operation that is done with a result after it. -/
theorem Orderly.save_bind (w : Write) (a : α)
    : Orderly kept [] d (save w >>= fun _ => Pure.pure a) := by
  rw [Operation.save_bind]
  exact .write (fun e => .fail (.store e)) (.done a)

/-- What was found is gone on from; otherwise the operation is refused. -/
theorem Orderly.found_bind (found : Option β) {e : MarketError} {k : β → Operation α}
    (rest : ∀ b, Orderly kept [] d (k b))
    : Orderly kept [] d (orRefuse found e >>= k) := by
  cases found with
  | none => exact Orderly.refuse _
  | some b => exact rest b

theorem Orderly.requireInstrument_bind {id : InstrumentId} {k : Instrument → Operation α}
    (rest : ∀ x, Orderly kept [] d (k x))
    : Orderly kept [] d (requireInstrument id >>= k) := by
  rw [requireInstrument_eq, bind_assoc]
  exact .query_bind fun found => .found_bind found rest

theorem Orderly.requireListing_bind {id : ListingId} {k : Listing → Operation α}
    (rest : ∀ x, Orderly kept [] d (k x))
    : Orderly kept [] d (requireListing id >>= k) := by
  rw [requireListing_eq, bind_assoc]
  exact .query_bind fun found => .found_bind found rest

theorem Orderly.requireBid_bind {id : BidId} {k : Bid → Operation α}
    (rest : ∀ b, Orderly kept [] d (k b))
    : Orderly kept [] d (requireBid id >>= k) := by
  rw [requireBid_eq, bind_assoc]
  exact .query_bind fun found => .found_bind found rest

theorem Orderly.requireAsk_bind {id : AskId} {k : Ask → Operation α}
    (rest : ∀ a, Orderly kept [] d (k a))
    : Orderly kept [] d (requireAsk id >>= k) := by
  rw [requireAsk_eq, bind_assoc]
  exact .query_bind fun found => .found_bind found rest

/-- Either branch may be followed by the same operation. -/
theorem Orderly.ite_bind {c : Prop} [Decidable c] {p q : Operation α}
    {k : α → Operation β} (hp : Orderly kept [] d (p >>= k))
    (hq : Orderly kept [] d (q >>= k))
    : Orderly kept [] d ((if c then p else q) >>= k) := by
  split
  · exact hp
  · exact hq

theorem Orderly.requireOpen_bind {id : ListingId} {k : Listing → Operation α}
    (rest : ∀ x, Orderly kept [] d (k x))
    : Orderly kept [] d (requireOpen id >>= k) := by
  rw [requireOpen, bind_assoc]
  refine .requireListing_bind fun x => ?_
  exact .ite_bind (.refuse _) (rest x)

theorem Orderly.requireUnoffered_bind {instrument : InstrumentId}
    {k : Unit → Operation α} (rest : Orderly kept [] d (k ()))
    : Orderly kept [] d (requireUnoffered instrument >>= k) := by
  refine .query fun reply => ?_
  cases reply with
  | none => exact rest
  | some other => exact .refuse _

theorem Orderly.requireOwner_bind {instrument : InstrumentId} {owner : CompanyId}
    {k : Ownership → Operation α} (rest : ∀ row, Orderly kept [] d (k row))
    : Orderly kept [] d (requireOwner instrument owner >>= k) := by
  rw [requireOwner, bind_assoc]
  refine .query_bind fun reply => ?_
  cases reply with
  | none => exact .refuse _
  | some row => exact .ite_bind (.refuse _) (rest row)

theorem Orderly.requireResolvable_bind {id : BidId} {actor : Actor}
    {k : Bid → Operation α} (rest : ∀ b, Orderly kept [] d (k b))
    : Orderly kept [] d (requireResolvable id actor >>= k) := by
  rw [requireResolvable, bind_assoc]
  refine .requireBid_bind fun b => ?_
  refine .ite_bind (.refuse _) ?_
  rw [bind_assoc]
  refine .requireOpen_bind fun listing => ?_
  exact .ite_bind (.refuse _) (rest b)

end Steps

-----------------------------------------------------------------------------------------
-- Every operation keeps the discipline
-----------------------------------------------------------------------------------------

theorem orderly_createDraft (actor : Actor) (terms : InstrumentTerms)
    : Orderly [] [] .nothing (createDraft actor terms) := by
  refine .now_bind rfl fun now => ?_
  apply Orderly.check_bind
  intro make
  refine .draw_bind (by decide) rfl fun id => ?_
  rw [Operation.save_bind]
  exact .write (fun e => .fail _) (closing_announce _)

theorem orderly_updateDraft (id : InstrumentId) (actor : Actor) (update : DraftUpdate)
    : Orderly [] [] .nothing (updateDraft id actor update) := by
  apply Orderly.changing (Scope.fits_nil _)
  apply Orderly.requireInstrument_bind
  intro x
  apply Orderly.ite (.refuse _)
  apply Orderly.ite (.refuse _)
  apply Orderly.ite (.pure _)
  refine .now_bind rfl fun now => ?_
  apply Orderly.check_bind
  intro x
  exact .save_bind _ _

theorem orderly_moveInstrument (id : InstrumentId) (target : InstrumentStatus)
    (actor : Actor)
    : Orderly [] [] .nothing (moveInstrument id target actor) := by
  apply Orderly.changing (Scope.fits_nil _)
  apply Orderly.requireInstrument_bind
  intro x
  apply Orderly.ite (.pure _)
  refine .discard_bind (.check_bind fun _ => ?_)
  refine .now_bind rfl fun now => ?_
  exact .save_bind _ _

theorem orderly_recordIssuance (instrument : InstrumentId) (owner : CompanyId)
    : Orderly [] [] .nothing (recordIssuance instrument owner) := by
  apply Orderly.changing (Scope.fits_nil _)
  apply Orderly.query_bind
  intro reply
  cases reply with
  | some active => exact .refuse _
  | none =>
      refine .now_bind rfl fun now => ?_
      refine .draw_bind (by decide) rfl fun row => ?_
      exact .save_bind _ _

theorem orderly_transfer (instrument : InstrumentId) (fromOwner toOwner : CompanyId)
    (reason : AcquisitionReason)
    : Orderly [] [] .nothing (transfer instrument fromOwner toOwner reason) := by
  apply Orderly.ite (.refuse _)
  apply Orderly.changing (Scope.fits_nil _)
  apply Orderly.requireOwner_bind
  intro active
  apply Orderly.ite (.refuse _)
  refine .now_bind rfl fun now => ?_
  apply Orderly.check_bind
  intro closing
  refine .draw_bind (by decide) rfl fun row => ?_
  exact .save_bind _ _

theorem orderly_createListing (instrument : InstrumentId) (actor : Actor)
    : Orderly [] [] .nothing (createListing instrument actor) := by
  refine .discard_bind (.requireInstrument_bind fun x => ?_)
  apply Orderly.changing (Scope.fits_nil _)
  apply Orderly.query_bind
  intro reply
  cases reply with
  | none => exact .refuse _
  | some row =>
      apply Orderly.ite (.refuse _)
      refine .requireUnoffered_bind ?_
      refine .now_bind rfl fun now => ?_
      refine .draw_bind (by decide) rfl fun listing => ?_
      exact .save_bind _ _

theorem orderly_transitionListing (id : ListingId) (target : ListingStatus)
    (actor : Actor)
    : Orderly [] [] .nothing (transitionListing id target actor) := by
  apply Orderly.requireListing_bind
  intro seen
  apply Orderly.ite (.pure _)
  apply Orderly.changing (Scope.fits_nil _)
  apply Orderly.locking (by simp [Scope.Fits, Scope.rank])
  apply Orderly.requireListing_bind
  intro x
  apply Orderly.ite (.pure _)
  refine .discard_bind (.check_bind fun _ => ?_)
  refine .ite (.requireUnoffered_bind ?_) ?_
  · refine .now_bind rfl fun now => ?_
    exact .save_bind _ _
  · refine .now_bind rfl fun now => ?_
    exact .save_bind _ _

theorem orderly_placeBid (actor : Actor) (request : BidRequest)
    : Orderly [] [] .nothing (placeBid actor request) := by
  apply Orderly.changing (Scope.fits_nil _)
  apply Orderly.requireOpen_bind
  intro listing
  apply Orderly.ite (.refuse _)
  apply Orderly.check_bind
  intro amount
  refine .now_bind rfl fun now => ?_
  refine .draw_bind (by decide) rfl fun bid => ?_
  exact .save_bind _ _

theorem orderly_transitionBid (id : BidId) (target : BidStatus) (actor : Actor)
    : Orderly [] [] .nothing (transitionBid id target actor) := by
  apply Orderly.requireBid_bind
  intro seen
  apply Orderly.ite (.pure _)
  apply Orderly.changing (Scope.fits_nil _)
  apply Orderly.requireBid_bind
  intro b
  apply Orderly.ite (.pure _)
  refine .discard_bind (.requireOpen_bind fun listing => ?_)
  refine .discard_bind (.check_bind fun _ => ?_)
  refine .now_bind rfl fun now => ?_
  exact .save_bind _ _

theorem orderly_acceptBid (id : BidId) (actor : Actor)
    : Orderly [] [] .nothing (acceptBid id actor) := by
  apply Orderly.requireBid_bind
  intro seen
  apply Orderly.changing (Scope.fits_nil _)
  apply Orderly.requireResolvable_bind
  intro b
  refine .now_bind rfl fun now => ?_
  apply Orderly.check_bind
  intro selected
  apply Orderly.query_bind
  intro bids
  apply Orderly.check_bind
  intro setAside
  exact .save_bind _ _

theorem orderly_rejectBid (id : BidId) (actor : Actor)
    : Orderly [] [] .nothing (rejectBid id actor) := by
  apply Orderly.requireBid_bind
  intro seen
  apply Orderly.changing (Scope.fits_nil _)
  apply Orderly.requireResolvable_bind
  intro b
  refine .now_bind rfl fun now => ?_
  apply Orderly.check_bind
  intro b
  exact .save_bind _ _

theorem orderly_placeAsk (actor : Actor) (request : AskRequest)
    : Orderly [] [] .nothing (placeAsk actor request) := by
  apply Orderly.changing (Scope.fits_nil _)
  apply Orderly.requireOpen_bind
  intro listing
  apply Orderly.ite (.refuse _)
  refine .now_bind rfl fun now => ?_
  apply Orderly.check_bind
  intro amount
  apply Orderly.check_bind
  intro make
  refine .draw_bind (by decide) rfl fun ask => ?_
  exact .save_bind _ _

theorem orderly_transitionAsk (id : AskId) (target : AskStatus) (actor : Actor)
    : Orderly [] [] .nothing (transitionAsk id target actor) := by
  apply Orderly.requireAsk_bind
  intro seen
  apply Orderly.ite (.pure _)
  apply Orderly.changing (Scope.fits_nil _)
  apply Orderly.requireAsk_bind
  intro a
  apply Orderly.ite (.pure _)
  refine .discard_bind (.requireOpen_bind fun listing => ?_)
  refine .discard_bind (.check_bind fun _ => ?_)
  refine .now_bind rfl fun now => ?_
  exact .save_bind _ _

theorem orderly_updateAsk (id : AskId) (actor : Actor) (update : AskUpdate)
    : Orderly [] [] .nothing (updateAsk id actor update) := by
  apply Orderly.requireAsk_bind
  intro seen
  apply Orderly.changing (Scope.fits_nil _)
  apply Orderly.requireAsk_bind
  intro a
  apply Orderly.ite (.refuse _)
  refine .discard_bind (.requireOpen_bind fun listing => ?_)
  apply Orderly.ite (.refuse _)
  refine .now_bind rfl fun now => ?_
  apply Orderly.check_bind
  intro a
  exact .save_bind _ _

end Operation

/-- Every request begins with an operation that keeps the discipline, by cases on the
request.
-/
theorem Command.orderly_opening (c : Command)
    : Operation.Orderly [] [] .nothing c.opening.operation := by
  cases c with
  | createDraft actor terms => exact (Operation.orderly_createDraft _ _).map _
  | updateDraft id actor update => exact (Operation.orderly_updateDraft _ _ _).map _
  | transitionInstrument id target actor =>
      exact (Operation.orderly_moveInstrument _ _ _).map _
  | moveInstrument id target actor =>
      exact (Operation.orderly_moveInstrument _ _ _).map _
  | recordIssuance instrument owner =>
      exact (Operation.orderly_recordIssuance _ _).map _
  | transfer instrument fromOwner toOwner reason =>
      exact (Operation.orderly_transfer _ _ _ _).map _
  | createListing instrument actor =>
      exact (Operation.orderly_createListing _ _).map _
  | transitionListing id target actor =>
      exact (Operation.orderly_transitionListing _ _ _).map _
  | placeBid actor request => exact (Operation.orderly_placeBid _ _).map _
  | transitionBid id target actor =>
      exact (Operation.orderly_transitionBid _ _ _).map _
  | acceptBid id actor => exact (Operation.orderly_acceptBid _ _).map _
  | rejectBid id actor => exact (Operation.orderly_rejectBid _ _).map _
  | placeAsk actor request => exact (Operation.orderly_placeAsk _ _).map _
  | transitionAsk id target actor =>
      exact (Operation.orderly_transitionAsk _ _ _).map _
  | updateAsk id actor update => exact (Operation.orderly_updateAsk _ _ _).map _

end DebtMarket
