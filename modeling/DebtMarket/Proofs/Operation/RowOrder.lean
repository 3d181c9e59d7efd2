import DebtMarket.Command
import DebtMarket.Proofs.Operation.Effect
import DebtMarket.Proofs.Store.RowOrder

/-! Operations and the order of rows. An operation takes the same steps on stores that hold the
same in another order of rows. Only an acceptance asks for several bids, and it goes on alike
from every order of them: it sets the same bids aside, in an order that differs at most where
they are equally old.
-/

namespace DebtMarket

-----------------------------------------------------------------------------------------
-- Results and notices
-----------------------------------------------------------------------------------------

/-- Failures that differ at most in which of several outdated bids they blame. -/
inductive Failure.Concur : Failure → Failure → Prop
  | refl (failure : Failure) : Concur failure failure
  | store {e e₁} (same : e.Concur e₁) : Concur (.store e) (.store e₁)

/-- Acceptances that differ at most in the order of set aside bids that are equally old. -/
structure Acceptance.Concur (a a₁ : Acceptance) : Prop where
  selected : a₁.selected = a.selected
  setAside : Tied (fun b => b.revision.createdAt) a.setAside a₁.setAside

/-- Outcomes that differ at most in the order of set aside bids that are equally old. -/
inductive Outcome.Concur : Outcome → Outcome → Prop
  | refl (outcome : Outcome) : Concur outcome outcome
  | acceptance {a a₁} (same : a.Concur a₁) : Concur (.acceptance a) (.acceptance a₁)

/-- Happenings that differ at most in the order in which they name bids that were set aside. -/
inductive Happening.Concur : Happening → Happening → Prop
  | refl (happening : Happening) : Concur happening happening
  | bidSelected (bid : BidId) (listing : ListingId) {setAside setAside₁}
    (same : setAside₁.Perm setAside)
    : Concur (.bidSelected bid listing setAside) (.bidSelected bid listing setAside₁)

/-- The same changes are made known at the same times. -/
def NoticesConcur (notices notices₁ : List (Happening × Instant)) : Prop :=
  List.Forall₂ (fun n n₁ => n.1.Concur n₁.1 ∧ n₁.2 = n.2) notices notices₁

/-- Changes with results that are related, which are made known alike. -/
structure Change.Concur {α : Type} (R : α → α → Prop) (change change₁ : Change α) : Prop where
  result : R change.result change₁.result
  notice : NoticesConcur change.notice.toList change₁.notice.toList

theorem noticesConcur_refl (notices : List (Happening × Instant))
    : NoticesConcur notices notices :=
  List.forall₂_same.2 fun n _ => ⟨.refl n.1, rfl⟩

theorem Change.Concur.refl {α : Type} (change : Change α) : change.Concur Eq change :=
  ⟨rfl, noticesConcur_refl _⟩

section Laws

theorem Failure.Concur.symm {a b : Failure} (h : a.Concur b) : b.Concur a := by
  cases h with
  | refl => exact .refl a
  | store same => exact .store same.symm

theorem Failure.Concur.trans {a b c : Failure} (h : a.Concur b) (h' : b.Concur c)
    : a.Concur c := by
  cases h with
  | refl => exact h'
  | store same =>
      cases h' with
      | refl => exact .store same
      | store same' => exact .store (same.trans same')

theorem Outcome.Concur.symm {a b : Outcome} (h : a.Concur b) : b.Concur a := by
  cases h with
  | refl => exact .refl a
  | acceptance same => exact .acceptance ⟨same.selected.symm, same.setAside.symm⟩

theorem Outcome.Concur.trans {a b c : Outcome} (h : a.Concur b) (h' : b.Concur c)
    : a.Concur c := by
  cases h with
  | refl => exact h'
  | acceptance same =>
      cases h' with
      | refl => exact .acceptance same
      | acceptance same' =>
          exact .acceptance
            ⟨same'.selected.trans same.selected, same.setAside.trans same'.setAside⟩

theorem Happening.Concur.symm {a b : Happening} (h : a.Concur b) : b.Concur a := by
  cases h with
  | refl => exact .refl a
  | bidSelected bid listing same => exact .bidSelected bid listing same.symm

theorem Happening.Concur.trans {a b c : Happening} (h : a.Concur b) (h' : b.Concur c)
    : a.Concur c := by
  cases h with
  | refl => exact h'
  | bidSelected bid listing same =>
      cases h' with
      | refl => exact .bidSelected bid listing same
      | bidSelected _ _ same' => exact .bidSelected bid listing (same'.trans same)

variable {notices notices₁ notices₂ : List (Happening × Instant)}

theorem NoticesConcur.symm (h : NoticesConcur notices notices₁)
    : NoticesConcur notices₁ notices :=
  List.Forall₂.flip (h.imp fun _ _ same => ⟨same.1.symm, same.2.symm⟩)

theorem NoticesConcur.trans (h : NoticesConcur notices notices₁)
    (h' : NoticesConcur notices₁ notices₂)
    : NoticesConcur notices notices₂ := by
  induction h generalizing notices₂ with
  | nil => exact h'
  | cons same _ ih =>
      obtain _ | ⟨same', rest'⟩ := h'
      exact .cons ⟨same.1.trans same'.1, same'.2.trans same.2⟩ (ih rest')

end Laws

namespace Effect

variable {α β : Type} {R : α → α → Prop} {R' : β → β → Prop}

/-- Effects with results that are related or failures that concur, which make the same known. -/
structure Tells (R : α → α → Prop) (e e₁ : Effect α) : Prop where
  result : EndAlike Failure.Concur R e.result e₁.result
  notices : NoticesConcur e.notices e₁.notices

/-- Effects of requests that tell the same tell it in both directions. -/
theorem Tells.symm {e e₁ : Effect Outcome} (h : e.Tells Outcome.Concur e₁)
    : e₁.Tells Outcome.Concur e :=
  ⟨h.result.symm Failure.Concur.symm Outcome.Concur.symm, h.notices.symm⟩

theorem Tells.trans {e e₁ e₂ : Effect Outcome} (h : e.Tells Outcome.Concur e₁)
    (h' : e₁.Tells Outcome.Concur e₂)
    : e.Tells Outcome.Concur e₂ :=
  ⟨h.result.trans Failure.Concur.trans Outcome.Concur.trans h'.result, h.notices.trans h'.notices⟩

/-- Effects that tell the same and leave stores that hold the same. -/
structure Concur (R : α → α → Prop) (e e₁ : Effect α) : Prop extends Tells R e e₁ where
  store : e.store.Mirrors e₁.store

/-- Effects concur if they begin so and go on so from results that are related. -/
theorem Concur.andThen {e e₁ : Effect α} (h : e.Concur R e₁) {f f₁ : α → Store → Effect β}
    (rest : ∀ a a₁, R a a₁ → (f a e.store).Concur R' (f₁ a₁ e₁.store))
    : (e.andThen f).Concur R' (e₁.andThen f₁) := by
  obtain ⟨⟨result, notices⟩, store⟩ := h
  rw [Effect.andThen, Effect.andThen]
  generalize e.result = left, e₁.result = right at result
  cases result with
  | error same => exact ⟨⟨.error same, notices⟩, store⟩
  | ok same =>
      obtain ⟨⟨result', notices'⟩, store'⟩ := rest _ _ same
      exact ⟨⟨result', List.rel_append notices notices'⟩, store'⟩

end Effect

namespace Operation

variable {α β : Type} {R : α → α → Prop} {R' : β → β → Prop}

/-- Operations that take the same steps, and come to results that are related, as long as what
they are answered concurs.
-/
inductive Concur (R : α → α → Prop) : Operation α → Operation α → Prop
  | done {a a₁} (same : R a a₁) : Concur R (done a) (done a₁)
  | fail {failure failure₁} (same : failure.Concur failure₁)
    : Concur R (fail failure) (fail failure₁)
  | now {next next₁} (rest : ∀ time, Concur R (next time) (next₁ time))
    : Concur R (call .now next) (call .now next₁)
  | draw {kind next next₁} (named : kind ≠ .event) (rest : ∀ id, Concur R (next id) (next₁ id))
    : Concur R (call (.draw kind) next) (call (.draw kind) next₁)
  | query {q next next₁}
    (rest : ∀ answer answer₁, q.Concur answer answer₁ → Concur R (next answer) (next₁ answer₁))
    : Concur R (call (.query q) next) (call (.query q) next₁)
  | write {w w₁ next next₁} (same : w.Concur w₁)
    (refused : ∀ e e₁, e.Concur e₁ → Concur R (next (.error e)) (next₁ (.error e₁)))
    (accepted : Concur R (next (.ok ())) (next₁ (.ok ())))
    : Concur R (call (.write w) next) (call (.write w₁) next₁)
  | publish {happening happening₁ time next next₁} (same : happening.Concur happening₁)
    (rest : Concur R (next ()) (next₁ ()))
    : Concur R (call (.publish happening time) next) (call (.publish happening₁ time) next₁)
  | lock {scope next next₁} (rest : Concur R next next₁)
    : Concur R (lock scope next) (lock scope next₁)
  | unlock {next next₁} (rest : Concur R next next₁) : Concur R (unlock next) (unlock next₁)

-----------------------------------------------------------------------------------------
-- Locks around an operation and operations after it
-----------------------------------------------------------------------------------------

variable {p p₁ : Operation α}

/-- Operations concur if they begin so and go on so from results that are related: by induction
on their beginnings.
-/
theorem Concur.bind (h : Concur R p p₁) {f f₁ : α → Operation β}
    (rest : ∀ a a₁, R a a₁ → Concur R' (f a) (f₁ a₁))
    : Concur R' (p.bind f) (p₁.bind f₁) := by
  induction h with
  | done same => exact rest _ _ same
  | fail same => exact .fail same
  | now _ ih => exact .now ih
  | draw named _ ih => exact .draw named ih
  | query _ ih => exact .query ih
  | write same _ _ refused accepted => exact .write same refused accepted
  | publish same _ ih => exact .publish same ih
  | lock _ ih => exact .lock ih
  | unlock _ ih => exact .unlock ih

/-- Results may be renamed. -/
theorem Concur.map (h : Concur R p p₁) {f : α → β} (each : ∀ a a₁, R a a₁ → R' (f a) (f a₁))
    : Concur R' (f <$> p) (f <$> p₁) :=
  h.bind fun a a₁ same => .done (each a a₁ same)

/-- Operations that give up one more lock at their end concur if they did, by induction on them.
-/
theorem Concur.releasing (h : Concur R p p₁) : Concur R p.releasing p₁.releasing := by
  induction h with
  | done same => exact .unlock (.done same)
  | fail same => exact .unlock (.fail same)
  | now _ ih => exact .now ih
  | draw named _ ih => exact .draw named ih
  | query _ ih => exact .query ih
  | write same _ _ refused accepted => exact .write same refused accepted
  | publish same _ ih => exact .publish same ih
  | lock _ ih => exact .lock ih
  | unlock _ ih => exact .unlock ih

theorem Concur.locking {scope : Scope} (h : Concur R p p₁)
    : Concur R (locking scope p) (locking scope p₁) :=
  .lock h.releasing

/-- Changes that concur are made known alike, by cases on what there is to tell. -/
theorem concur_announce {change change₁ : Change α} (h : change.Concur R change₁)
    : Concur R (announce change) (announce change₁) := by
  obtain ⟨result, notice⟩ := change
  obtain ⟨result₁, notice₁⟩ := change₁
  obtain ⟨same, told⟩ := h
  cases notice with
  | none =>
      cases notice₁ with
      | none => exact .done same
      | some n₁ => cases told
  | some n =>
      cases notice₁ with
      | none => cases told
      | some n₁ =>
          obtain ⟨happening, time⟩ := n
          obtain ⟨happening₁, time₁⟩ := n₁
          obtain _ | ⟨⟨concur, rfl⟩, -⟩ := told
          exact .publish concur (.done same)

theorem Concur.changing {scope : Scope} {body body₁ : Operation (Change α)}
    (h : Concur (Change.Concur R) body body₁)
    : Concur R (changing scope body) (changing scope body₁) :=
  h.locking.bind fun _ _ => concur_announce

-----------------------------------------------------------------------------------------
-- Effects
-----------------------------------------------------------------------------------------

/-- Operations that concur have effects that do on stores that hold the same, by induction on
them.
-/
theorem Concur.effect (h : Concur R p p₁) (g : Given) {s s₁ : Store} (mirrors : s.Mirrors s₁)
    : (p.effect g s).Concur R (p₁.effect g s₁) := by
  induction h generalizing s s₁ with
  | done same => exact ⟨⟨.ok same, .nil⟩, mirrors⟩
  | fail same => exact ⟨⟨.error same, .nil⟩, mirrors⟩
  | now _ ih => exact ih g.instant mirrors
  | @draw kind _ _ _ _ ih => exact ih (g.id kind) mirrors
  | @query q _ _ _ ih => exact ih _ _ (mirrors.answer q) mirrors
  | @write w w₁ _ _ same _ _ refused accepted =>
      simp only [Operation.effect]
      have ends := mirrors.write same
      generalize s.write w = left, s₁.write w₁ = right at ends
      cases ends with
      | error errors => exact refused _ _ errors mirrors
      | ok stores => exact accepted stores
  | publish same _ ih =>
      obtain ⟨⟨result, notices⟩, store⟩ := ih mirrors
      exact ⟨⟨result, .cons ⟨same, rfl⟩ notices⟩, store⟩
  | lock _ ih => exact ih mirrors
  | unlock _ ih => exact ih mirrors

-----------------------------------------------------------------------------------------
-- Steps in front of an operation
-----------------------------------------------------------------------------------------

section Steps

variable {q q₁ : Operation α}

theorem Concur.pure {a a₁ : α} (same : R a a₁)
    : Concur R (Pure.pure a : Operation α) (Pure.pure a₁) :=
  .done same

theorem Concur.refuse (e : MarketError)
    : Concur R (Operation.refuse e : Operation α) (Operation.refuse e) :=
  .fail (.refl _)

theorem Concur.ite {c : Prop} [Decidable c] (hp : Concur R p p₁) (hq : Concur R q q₁)
    : Concur R (if c then p else q) (if c then p₁ else q₁) := by
  split
  · exact hp
  · exact hq

/-- Either branch may be followed by operations that concur. -/
theorem Concur.ite_bind {c : Prop} [Decidable c] {r r' : Operation β} {k k₁ : β → Operation α}
    (hr : Concur R (r >>= k) (r >>= k₁)) (hr' : Concur R (r' >>= k) (r' >>= k₁))
    : Concur R ((if c then r else r') >>= k) ((if c then r else r') >>= k₁) := by
  split
  · exact hr
  · exact hr'

theorem Concur.now_bind {k k₁ : Instant → Operation α}
    (rest : ∀ time, Concur R (k time) (k₁ time))
    : Concur R (Operation.now >>= k) (Operation.now >>= k₁) :=
  .now rest

theorem Concur.draw_bind {kind : IdKind} {k k₁ : Id kind → Operation α} (named : kind ≠ .event)
    (rest : ∀ id, Concur R (k id) (k₁ id))
    : Concur R (Operation.draw kind >>= k) (Operation.draw kind >>= k₁) :=
  .draw named rest

theorem Concur.query_bind {q : Query} {k k₁ : q.Answer → Operation α}
    (rest : ∀ answer answer₁, q.Concur answer answer₁ → Concur R (k answer) (k₁ answer₁))
    : Concur R (Operation.query q >>= k) (Operation.query q >>= k₁) :=
  .query rest

/-- A rule either refuses or goes on, by cases on its outcome. -/
theorem Concur.check_bind {outcome : Except MarketError β} {k k₁ : β → Operation α}
    (rest : ∀ b, Concur R (k b) (k₁ b))
    : Concur R (check outcome >>= k) (check outcome >>= k₁) := by
  cases outcome with
  | error e => exact .refuse e
  | ok b => exact rest b

theorem Concur.discard_bind {r : Operation β} {k k₁ : PUnit → Operation α}
    (h : Concur R (r >>= fun _ => k ⟨⟩) (r >>= fun _ => k₁ ⟨⟩))
    : Concur R (discard r >>= k) (discard r >>= k₁) := by
  rw [Operation.discard_bind, Operation.discard_bind]
  exact h

/-- Writes of the same records are followed by operations that concur. -/
theorem Concur.save_bind {w w₁ : Write} (same : w.Concur w₁) {k k₁ : Unit → Operation α}
    (rest : Concur R (k ()) (k₁ ()))
    : Concur R (save w >>= k) (save w₁ >>= k₁) := by
  rw [Operation.save_bind, Operation.save_bind]
  exact .write same (fun e e₁ errors => .fail (.store errors)) rest

/-- What was found is gone on from; otherwise the operation is refused. -/
theorem Concur.found_bind {found : Option β} {e : MarketError} {k k₁ : β → Operation α}
    (rest : ∀ b, found = some b → Concur R (k b) (k₁ b))
    : Concur R (orRefuse found e >>= k) (orRefuse found e >>= k₁) := by
  cases found with
  | none => exact .refuse e
  | some b => exact rest b rfl

theorem Concur.requireInstrument_bind {id : InstrumentId} {k k₁ : Instrument → Operation α}
    (rest : ∀ x, Concur R (k x) (k₁ x))
    : Concur R (requireInstrument id >>= k) (requireInstrument id >>= k₁) := by
  rw [requireInstrument_eq, bind_assoc, bind_assoc]
  refine .query_bind fun found found₁ same => ?_
  obtain rfl : found₁ = found := same
  exact .found_bind fun x _ => rest x

theorem Concur.requireListing_bind {id : ListingId} {k k₁ : Listing → Operation α}
    (rest : ∀ x, Concur R (k x) (k₁ x))
    : Concur R (requireListing id >>= k) (requireListing id >>= k₁) := by
  rw [requireListing_eq, bind_assoc, bind_assoc]
  refine .query_bind fun found found₁ same => ?_
  obtain rfl : found₁ = found := same
  exact .found_bind fun x _ => rest x

theorem Concur.requireBid_bind {id : BidId} {k k₁ : Bid → Operation α}
    (rest : ∀ b, b.id = id → Concur R (k b) (k₁ b))
    : Concur R (requireBid id >>= k) (requireBid id >>= k₁) := by
  rw [requireBid_eq, bind_assoc, bind_assoc]
  refine .query_bind fun found found₁ same => ?_
  obtain ⟨rfl, mine⟩ := same
  exact .found_bind fun b stored => rest b (mine b stored)

theorem Concur.requireAsk_bind {id : AskId} {k k₁ : Ask → Operation α}
    (rest : ∀ a, Concur R (k a) (k₁ a))
    : Concur R (requireAsk id >>= k) (requireAsk id >>= k₁) := by
  rw [requireAsk_eq, bind_assoc, bind_assoc]
  refine .query_bind fun found found₁ same => ?_
  obtain rfl : found₁ = found := same
  exact .found_bind fun a _ => rest a

theorem Concur.requireOpen_bind {id : ListingId} {k k₁ : Listing → Operation α}
    (rest : ∀ x, Concur R (k x) (k₁ x))
    : Concur R (requireOpen id >>= k) (requireOpen id >>= k₁) := by
  rw [requireOpen, bind_assoc, bind_assoc]
  refine .requireListing_bind fun x => ?_
  exact .ite_bind (.refuse _) (rest x)

theorem Concur.requireUnoffered_bind {instrument : InstrumentId} {k k₁ : Unit → Operation α}
    (rest : Concur R (k ()) (k₁ ()))
    : Concur R (requireUnoffered instrument >>= k) (requireUnoffered instrument >>= k₁) := by
  rw [requireUnoffered, bind_assoc, bind_assoc]
  refine .query_bind fun found found₁ same => ?_
  obtain rfl : found = found₁ := same.symm
  cases found with
  | none => exact rest
  | some other => exact .refuse _

theorem Concur.activeRow_bind {instrument : InstrumentId} {k k₁ : Option Ownership → Operation α}
    (rest : ∀ found, Concur R (k found) (k₁ found))
    : Concur R (Operation.query (.activeRow instrument) >>= k)
        (Operation.query (.activeRow instrument) >>= k₁) := by
  refine .query_bind fun found found₁ same => ?_
  obtain rfl : found = found₁ := same.symm
  exact rest found

theorem Concur.requireOwner_bind {instrument : InstrumentId} {owner : CompanyId}
    {k k₁ : Ownership → Operation α} (rest : ∀ row, Concur R (k row) (k₁ row))
    : Concur R (requireOwner instrument owner >>= k) (requireOwner instrument owner >>= k₁) := by
  rw [requireOwner, bind_assoc, bind_assoc]
  refine .activeRow_bind fun found => ?_
  cases found with
  | none => exact .refuse _
  | some row => exact .ite_bind (.refuse _) (rest row)

theorem Concur.requireResolvable_bind {id : BidId} {actor : Actor} {k k₁ : Bid → Operation α}
    (rest : ∀ b, b.id = id → Concur R (k b) (k₁ b))
    : Concur R (requireResolvable id actor >>= k) (requireResolvable id actor >>= k₁) := by
  rw [requireResolvable, bind_assoc, bind_assoc]
  refine .requireBid_bind fun b mine => ?_
  refine .ite_bind (.refuse _) ?_
  rw [bind_assoc, bind_assoc]
  refine .requireOpen_bind fun listing => ?_
  exact .ite_bind (.refuse _) (rest b mine)

end Steps

-----------------------------------------------------------------------------------------
-- Every operation concurs with itself
-----------------------------------------------------------------------------------------

/-- A write is the end of an operation that answers a change. -/
theorem concur_save_pure (w : Write) (change : Change α)
    : Concur (Change.Concur Eq) (save w >>= fun _ => Pure.pure change)
        (save w >>= fun _ => Pure.pure change) :=
  .save_bind (.refl w) (.pure (.refl change))

theorem concur_createDraft (actor : Actor) (terms : InstrumentTerms)
    : Concur Eq (createDraft actor terms) (createDraft actor terms) := by
  refine .now_bind fun now => .check_bind fun make => .draw_bind (by decide) fun id => ?_
  exact .save_bind (.refl _) (concur_announce (.refl _))

theorem concur_updateDraft (id : InstrumentId) (actor : Actor) (update : DraftUpdate)
    : Concur Eq (updateDraft id actor update) (updateDraft id actor update) := by
  refine .changing (.requireInstrument_bind fun x => ?_)
  refine .ite (.refuse _) (.ite (.refuse _) (.ite (.pure (.refl _)) ?_))
  exact .now_bind fun now => .check_bind fun x => concur_save_pure _ _

theorem concur_moveInstrument (id : InstrumentId) (target : InstrumentStatus) (actor : Actor)
    : Concur Eq (moveInstrument id target actor) (moveInstrument id target actor) := by
  refine .changing (.requireInstrument_bind fun x => .ite (.pure (.refl _)) ?_)
  refine .discard_bind (.check_bind fun _ => ?_)
  exact .now_bind fun now => concur_save_pure _ _

theorem concur_recordIssuance (instrument : InstrumentId) (owner : CompanyId)
    : Concur Eq (recordIssuance instrument owner) (recordIssuance instrument owner) := by
  refine .changing (.activeRow_bind fun found => ?_)
  cases found with
  | some active => exact .refuse _
  | none =>
      exact .now_bind fun now => .draw_bind (by decide) fun row => concur_save_pure _ _

theorem concur_transfer (instrument : InstrumentId) (fromOwner toOwner : CompanyId)
    (reason : AcquisitionReason)
    : Concur Eq (transfer instrument fromOwner toOwner reason)
        (transfer instrument fromOwner toOwner reason) := by
  refine .ite (.refuse _) (.changing (.requireOwner_bind fun active => .ite (.refuse _) ?_))
  refine .now_bind fun now => .check_bind fun closing => ?_
  exact .draw_bind (by decide) fun row => concur_save_pure _ _

theorem concur_createListing (instrument : InstrumentId) (actor : Actor)
    : Concur Eq (createListing instrument actor) (createListing instrument actor) := by
  refine .discard_bind (.requireInstrument_bind fun x => ?_)
  refine .changing (.activeRow_bind fun found => ?_)
  cases found with
  | none => exact .refuse _
  | some row =>
      refine .ite (.refuse _) (.requireUnoffered_bind ?_)
      exact .now_bind fun now => .draw_bind (by decide) fun listing => concur_save_pure _ _

theorem concur_transitionListing (id : ListingId) (target : ListingStatus) (actor : Actor)
    : Concur Eq (transitionListing id target actor) (transitionListing id target actor) := by
  refine .requireListing_bind fun seen => .ite (.pure rfl) ?_
  refine .changing (.locking (.requireListing_bind fun x => .ite (.pure (.refl _)) ?_))
  refine .discard_bind (.check_bind fun _ => .ite (.requireUnoffered_bind ?_) ?_)
  · exact .now_bind fun now => concur_save_pure _ _
  · exact .now_bind fun now => concur_save_pure _ _

theorem concur_placeBid (actor : Actor) (request : BidRequest)
    : Concur Eq (placeBid actor request) (placeBid actor request) := by
  refine .changing (.requireOpen_bind fun listing => .ite (.refuse _) ?_)
  refine .check_bind fun amount => .now_bind fun now => ?_
  exact .draw_bind (by decide) fun bid => concur_save_pure _ _

theorem concur_transitionBid (id : BidId) (target : BidStatus) (actor : Actor)
    : Concur Eq (transitionBid id target actor) (transitionBid id target actor) := by
  refine .requireBid_bind fun seen _ => .ite (.pure rfl) ?_
  refine .changing (.requireBid_bind fun b _ => .ite (.pure (.refl _)) ?_)
  refine .discard_bind (.requireOpen_bind fun listing => ?_)
  refine .discard_bind (.check_bind fun _ => ?_)
  exact .now_bind fun now => concur_save_pure _ _

/-- The bids that an acceptance sets aside are pending ones, so that none of them refuses. -/
theorem setAside_others (bids : List Bid) (id : BidId) (now : Instant)
    : (bids.filter fun other => other.id != id && other.isPending).mapM
        (fun other => other.setAside now)
      = .ok ((bids.filter fun other => other.id != id && other.isPending).map
          fun other => other.moveTo .notSelected now) := by
  refine Bid.setAside_of_pending (fun b member => ?_) now
  exact (Bool.and_eq_true_iff.1 (List.mem_filter.1 member).2).2

/-- A bid is not among the bids that are set aside along with its selection. -/
theorem nodup_setAside {b : Bid} {bids : List Bid} (once : (bids.map Bid.id).Nodup)
    (now : Instant)
    : ((b.moveTo .selected now ::
        (bids.filter fun other => other.id != b.id && other.isPending).map
          fun other => other.moveTo .notSelected now).map Bid.id).Nodup := by
  rw [List.map_cons, List.map_map]
  refine List.nodup_cons.2 ⟨fun among => ?_, (List.filter_sublist.map Bid.id).nodup once⟩
  obtain ⟨other, member, same⟩ := List.mem_map.1 among
  have apart := (Bool.and_eq_true_iff.1 (List.mem_filter.1 member).2).1
  exact bne_iff_ne.1 apart same

/-- From bids that are tied, an acceptance sets the same ones aside. -/
theorem concur_acceptBid (id : BidId) (actor : Actor)
    : Concur Acceptance.Concur (acceptBid id actor) (acceptBid id actor) := by
  refine .requireBid_bind fun seen _ => .changing (.requireResolvable_bind fun b mine => ?_)
  subst mine
  refine .now_bind fun now => ?_
  cases select : b.select now with
  | error e => exact .refuse e
  | ok selected =>
      obtain ⟨-, rfl⟩ := Bid.resolve_eq_ok.1 select
      refine .query_bind fun bids bids₁ same => ?_
      obtain ⟨tied, once⟩ := same
      have others := tied.filter fun other => other.id != b.id && other.isPending
      have setAside := others.map (f := fun other => other.moveTo .notSelected now) fun _ => rfl
      have writes := Write.Concur.bids (nodup_setAside once now) (setAside.same.cons _)
      have named := Happening.Concur.bidSelected b.id seen.listing (setAside.same.map Bid.id)
      simp only [setAside_others]
      exact .save_bind writes (.pure ⟨⟨rfl, setAside⟩, .cons ⟨named, rfl⟩ .nil⟩)

theorem concur_rejectBid (id : BidId) (actor : Actor)
    : Concur Eq (rejectBid id actor) (rejectBid id actor) := by
  refine .requireBid_bind fun seen _ => .changing (.requireResolvable_bind fun b _ => ?_)
  exact .now_bind fun now => .check_bind fun b => concur_save_pure _ _

theorem concur_placeAsk (actor : Actor) (request : AskRequest)
    : Concur Eq (placeAsk actor request) (placeAsk actor request) := by
  refine .changing (.requireOpen_bind fun listing => .ite (.refuse _) ?_)
  refine .now_bind fun now => .check_bind fun amount => .check_bind fun make => ?_
  exact .draw_bind (by decide) fun ask => concur_save_pure _ _

theorem concur_transitionAsk (id : AskId) (target : AskStatus) (actor : Actor)
    : Concur Eq (transitionAsk id target actor) (transitionAsk id target actor) := by
  refine .requireAsk_bind fun seen => .ite (.pure rfl) ?_
  refine .changing (.requireAsk_bind fun a => .ite (.pure (.refl _)) ?_)
  refine .discard_bind (.requireOpen_bind fun listing => ?_)
  refine .discard_bind (.check_bind fun _ => ?_)
  exact .now_bind fun now => concur_save_pure _ _

theorem concur_updateAsk (id : AskId) (actor : Actor) (update : AskUpdate)
    : Concur Eq (updateAsk id actor update) (updateAsk id actor update) := by
  refine .requireAsk_bind fun seen => .changing (.requireAsk_bind fun a => .ite (.refuse _) ?_)
  refine .discard_bind (.requireOpen_bind fun listing => .ite (.refuse _) ?_)
  exact .now_bind fun now => .check_bind fun a => concur_save_pure _ _

end Operation

namespace Command

/-- Operations that come to the same result come to the same outcome. -/
theorem concur_outcome {α : Type} {p : Operation α} (h : Operation.Concur Eq p p)
    (outcome : α → Outcome)
    : Operation.Concur Outcome.Concur (outcome <$> p) (outcome <$> p) :=
  h.map fun a _ same => same ▸ .refl (outcome a)

/-- Outcomes that concur are followed by the same, as no acceptance is followed by anything. -/
theorem sequel?_concur (c : Command) {outcome outcome₁ : Outcome}
    (same : outcome.Concur outcome₁)
    : c.sequel? outcome₁ = c.sequel? outcome := by
  cases same with
  | refl => rfl
  | acceptance => cases c <;> rfl

/-- Every request begins with an operation that does the same whatever the order of rows is, by
cases on the request.
-/
theorem concur_opening (c : Command)
    : Operation.Concur Outcome.Concur c.opening.operation c.opening.operation := by
  cases c with
  | createDraft actor terms => exact concur_outcome (Operation.concur_createDraft _ _) _
  | updateDraft id actor update => exact concur_outcome (Operation.concur_updateDraft _ _ _) _
  | transitionInstrument id target actor =>
      exact concur_outcome (Operation.concur_moveInstrument _ _ _) _
  | moveInstrument id target actor =>
      exact concur_outcome (Operation.concur_moveInstrument _ _ _) _
  | recordIssuance instrument owner =>
      exact concur_outcome (Operation.concur_recordIssuance _ _) _
  | transfer instrument fromOwner toOwner reason =>
      exact concur_outcome (Operation.concur_transfer _ _ _ _) _
  | createListing instrument actor =>
      exact concur_outcome (Operation.concur_createListing _ _) _
  | transitionListing id target actor =>
      exact concur_outcome (Operation.concur_transitionListing _ _ _) _
  | placeBid actor request => exact concur_outcome (Operation.concur_placeBid _ _) _
  | transitionBid id target actor => exact concur_outcome (Operation.concur_transitionBid _ _ _) _
  | acceptBid id actor =>
      exact (Operation.concur_acceptBid id actor).map fun _ _ same => .acceptance same
  | rejectBid id actor => exact concur_outcome (Operation.concur_rejectBid _ _) _
  | placeAsk actor request => exact concur_outcome (Operation.concur_placeAsk _ _) _
  | transitionAsk id target actor => exact concur_outcome (Operation.concur_transitionAsk _ _ _) _
  | updateAsk id actor update => exact concur_outcome (Operation.concur_updateAsk _ _ _) _

end Command

end DebtMarket
