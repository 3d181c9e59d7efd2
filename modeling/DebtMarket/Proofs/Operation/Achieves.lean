import DebtMarket.Proofs.Operation.Effect

/-! What operations achieve. An operation that nothing disturbs goes along one way: it asks the
store, tries to write at most once, and ends. The rules below walk an operation from its first
step to its end, and collect what every step has found out. From the way follows what the
operation achieves on its store, and that it achieves the same on every store that answers
alike and accepts or refuses the write alike.
-/

namespace DebtMarket

namespace Store

/-- The store after a write, if there is one. -/
def Wrote (s : Store) (w : Option Write) (s' : Store) : Prop :=
  match w with
  | none => s' = s
  | some w => s.write w = .ok s'

/-- Two stores accept or refuse a write alike, and what it leaves on them is related if it is
accepted.
-/
def WritesAlike (related : Store → Store → Prop) (s s₁ : Store) (w : Write) : Prop :=
  (∃ e, s.write w = .error e ∧ s₁.write w = .error e)
  ∨ ∃ s' s₁', s.write w = .ok s' ∧ s₁.write w = .ok s₁' ∧ related s' s₁'

end Store

namespace Operation

variable {α β : Type}

/-- If the operation succeeds, then its result, the store that it leaves and what it makes
known meet a condition; if the store refuses its write, then the refusal meets another one.
-/
def Achieves (g : Given) (s : Store) (p : Operation α)
    (post : α → Store → List (Happening × Instant) → Prop) (refused : StoreError → Prop)
    : Prop :=
  (∀ a, (p.effect g s).result = .ok a
    → post a (p.effect g s).store (p.effect g s).notices)
  ∧ ∀ e, (p.effect g s).result = .error (.store e) → refused e

/-- The way that an operation goes when nothing else happens meanwhile: it asks only what it
may, a market rule refuses it before it writes or the store refuses its only write, and
otherwise it ends with a result, a write if there is one and notices that belong together.
-/
def Along (asks : Query → Prop) (g : Given) (s : Store)
    : Operation α → (ends : α → Option Write → List (Happening × Instant) → Prop) → Prop
  | .done a, ends => ends a none []
  | .fail failure, _ => ∃ e, failure = .market e
  | .call .now next, ends => (next g.instant).Along asks g s ends
  | .call (.draw kind) next, ends => (next (g.id kind)).Along asks g s ends
  | .call (.query q) next, ends => asks q ∧ (next (s.answer q)).Along asks g s ends
  | .call (.write w) next, ends =>
      (∀ e g s, (next (.error e)).effect g s = .idle (.error (.store e)) s)
      ∧ ∃ a notices, ends a (some w) notices
          ∧ ∀ g s, (next (.ok ())).effect g s = ⟨.ok a, s, notices⟩
  | .call (.publish happening time) next, ends =>
      (next ()).Along asks g s fun a w notices => ends a w ((happening, time) :: notices)
  | .lock _ next, ends | .unlock next, ends => next.Along asks g s ends

variable {asks : Query → Prop} {g : Given} {s : Store}
  {ends : α → Option Write → List (Happening × Instant) → Prop}

-----------------------------------------------------------------------------------------
-- What the way of an operation tells about its effect
-----------------------------------------------------------------------------------------

/-- The way of an operation tells what it achieves, by induction on the operation. -/
theorem Along.achieves {p : Operation α} (h : p.Along asks g s ends)
    : Achieves g s p (fun a s' notices => ∃ w, ends a w notices ∧ s.Wrote w s')
        fun e => ∃ a w notices, ends a (some w) notices ∧ s.write w = .error e := by
  induction p generalizing ends with
  | done a =>
      constructor
      · intro b ended
        cases ended
        exact ⟨none, h, rfl⟩
      · intro e ended
        cases ended
  | fail failure =>
      obtain ⟨e, rfl⟩ := h
      constructor
      · intro b ended
        cases ended
      · intro e ended
        cases ended
  | lock scope next ih => exact ih h
  | unlock next ih => exact ih h
  | call c next ih =>
      cases c with
      | now => exact ih g.instant h
      | draw kind => exact ih (g.id kind) h
      | query q => exact ih (s.answer q) h.2
      | publish happening time =>
          obtain ⟨ok, refused⟩ := ih () h
          refine ⟨ok, fun e ended => ?_⟩
          obtain ⟨a, w, notices, ending, written⟩ := refused e ended
          exact ⟨a, w, _, ending, written⟩
      | write w =>
          obtain ⟨refused, a, notices, ending, accepted⟩ := h
          simp only [Achieves, Operation.effect]
          cases written : s.write w with
          | error e =>
              simp only [refused]
              constructor
              · intro b ended
                cases ended
              · intro e' ended
                cases ended
                exact ⟨a, w, notices, ending, written⟩
          | ok s' =>
              simp only [accepted]
              constructor
              · intro b ended
                cases ended
                exact ⟨some w, ending, written⟩
              · intro e ended
                cases ended

/-- On a store that answers alike what is asked, and accepts or refuses alike what is tried, an
operation has the same effect; the stores that it leaves are related as the given ones and
those after an accepted write are. By induction on the operation.
-/
theorem Along.effect_alike {p : Operation α} {s₁ : Store} {related : Store → Store → Prop}
    (h : p.Along asks g s ends) (answered : ∀ q, asks q → s₁.answer q = s.answer q)
    (unchanged : related s s₁)
    (written : ∀ a w notices, ends a (some w) notices → s.WritesAlike related s₁ w)
    : (p.effect g s).Alike related (p.effect g s₁) := by
  induction p generalizing ends with
  | done a => exact ⟨rfl, rfl, unchanged⟩
  | fail failure => exact ⟨rfl, rfl, unchanged⟩
  | lock scope next ih => exact ih h written
  | unlock next ih => exact ih h written
  | call c next ih =>
      cases c with
      | now => exact ih g.instant h written
      | draw kind => exact ih (g.id kind) h written
      | query q =>
          simp only [Operation.effect, answered q h.1]
          exact ih (s.answer q) h.2 written
      | publish happening time =>
          obtain ⟨result, notices, related⟩ := ih () h fun a w notices => written a w _
          exact ⟨result, congrArg (List.cons _) notices, related⟩
      | write w =>
          obtain ⟨refused, a, notices, ending, accepted⟩ := h
          rcases written a w notices ending with
            ⟨e, here, there⟩ | ⟨s', s₁', here, there, later⟩
          · simp only [Operation.effect, here, there, refused]
            exact ⟨rfl, rfl, unchanged⟩
          · simp only [Operation.effect, here, there, accepted]
            exact ⟨rfl, rfl, later⟩

-----------------------------------------------------------------------------------------
-- Locks around an operation and operations after it
-----------------------------------------------------------------------------------------

/-- Giving up a lock at the end does nothing else, by induction on the operation. -/
theorem Along.releasing {p : Operation α} (h : p.Along asks g s ends)
    : p.releasing.Along asks g s ends := by
  induction p generalizing ends with
  | done a => exact h
  | fail failure => exact h
  | lock scope next ih => exact ih h
  | unlock next ih => exact ih h
  | call c next ih =>
      cases c with
      | now => exact ih g.instant h
      | draw kind => exact ih (g.id kind) h
      | query q => exact ⟨h.1, ih (s.answer q) h.2⟩
      | publish happening time => exact ih () h
      | write w =>
          obtain ⟨refused, a, notices, ending, accepted⟩ := h
          refine ⟨fun e g s => ?_, a, notices, ending, fun g s => ?_⟩
          · rw [effect_releasing, refused]
          · rw [effect_releasing, accepted]

/-- An operation may be followed by what only makes its result known: by induction on it. -/
theorem Along.announcing {p : Operation (Change α)}
    (h : p.Along asks g s fun change w notices =>
      ends change.result w (notices ++ change.notice.toList))
    : (p.bind announce).Along asks g s ends := by
  induction p generalizing ends with
  | done change =>
      obtain ⟨result, notice⟩ := change
      cases notice <;> exact h
  | fail failure => exact h
  | lock scope next ih => exact ih h
  | unlock next ih => exact ih h
  | call c next ih =>
      cases c with
      | now => exact ih g.instant h
      | draw kind => exact ih (g.id kind) h
      | query q => exact ⟨h.1, ih (s.answer q) h.2⟩
      | publish happening time => exact ih () h
      | write w =>
          obtain ⟨refused, change, notices, ending, accepted⟩ := h
          refine ⟨fun e g s => ?_, change.result, _, ending, fun g s => ?_⟩
          · rw [effect_bind, refused, Effect.andThen_idle_error]
          · simp only [effect_bind, accepted, Effect.andThen, effect_announce]

/-- A result may be renamed, by induction on the operation. -/
theorem Along.map {p : Operation β} {f : β → α}
    (h : p.Along asks g s fun b => ends (f b))
    : (f <$> p).Along asks g s ends := by
  rw [map_eq]
  induction p generalizing ends with
  | done b => exact h
  | fail failure => exact h
  | lock scope next ih => exact ih h
  | unlock next ih => exact ih h
  | call c next ih =>
      cases c with
      | now => exact ih g.instant h
      | draw kind => exact ih (g.id kind) h
      | query q => exact ⟨h.1, ih (s.answer q) h.2⟩
      | publish happening time => exact ih () h
      | write w =>
          obtain ⟨refused, b, notices, ending, accepted⟩ := h
          refine ⟨fun e g s => ?_, f b, notices, ending, fun g s => ?_⟩
          · rw [effect_bind, refused, Effect.andThen_idle_error]
          · simp only [effect_bind, accepted, Effect.andThen, effect_done, Effect.idle,
              List.append_nil]

theorem Along.locking {scope : Scope} {body : Operation α} (h : body.Along asks g s ends)
    : (locking scope body).Along asks g s ends :=
  h.releasing

/-- A change is made known after its body made nothing known itself. -/
theorem Along.changing {scope : Scope} {body : Operation (Change α)}
    (h : body.Along asks g s fun change w notices =>
      ends change.result w (notices ++ change.notice.toList))
    : (changing scope body).Along asks g s ends :=
  h.releasing.announcing

-----------------------------------------------------------------------------------------
-- Steps in front of an operation
-----------------------------------------------------------------------------------------

section Steps

theorem Along.pure {a : α} (h : ends a none [])
    : (Pure.pure a : Operation α).Along asks g s ends :=
  h

theorem Along.refuse (e : MarketError)
    : (Operation.refuse e : Operation α).Along asks g s ends :=
  ⟨e, rfl⟩

theorem Along.ite {c : Prop} [Decidable c] {p q : Operation α}
    (hp : c → p.Along asks g s ends) (hq : ¬c → q.Along asks g s ends)
    : (if c then p else q).Along asks g s ends := by
  split
  · next h => exact hp h
  · next h => exact hq h

theorem Along.ite_bind {c : Prop} [Decidable c] {p q : Operation β} {k : β → Operation α}
    (hp : c → (p >>= k).Along asks g s ends) (hq : ¬c → (q >>= k).Along asks g s ends)
    : ((if c then p else q) >>= k).Along asks g s ends := by
  split
  · next h => exact hp h
  · next h => exact hq h

theorem Along.query_bind {q : Query} {k : q.Answer → Operation α} (asked : asks q)
    (rest : (k (s.answer q)).Along asks g s ends)
    : (Operation.query q >>= k).Along asks g s ends :=
  ⟨asked, rest⟩

theorem Along.now_bind {k : Instant → Operation α}
    (rest : (k g.instant).Along asks g s ends)
    : (Operation.now >>= k).Along asks g s ends :=
  rest

theorem Along.draw_bind {kind : IdKind} {k : Id kind → Operation α}
    (rest : (k (g.id kind)).Along asks g s ends)
    : (Operation.draw kind >>= k).Along asks g s ends :=
  rest

/-- A rule that is met goes on, by cases on its outcome. -/
theorem Along.check_bind {outcome : Except MarketError β} {k : β → Operation α}
    (rest : ∀ b, outcome = .ok b → (k b).Along asks g s ends)
    : (check outcome >>= k).Along asks g s ends := by
  cases outcome with
  | error e => exact .refuse e
  | ok b => exact rest b rfl

theorem Along.discard_bind {p : Operation β} {k : PUnit → Operation α}
    (h : (p >>= fun _ => k ⟨⟩).Along asks g s ends)
    : (discard p >>= k).Along asks g s ends := by
  rw [Operation.discard_bind]
  exact h

/-- A write is the end of an operation that is done with a result after it. -/
theorem Along.save_pure {w : Write} {a : α} (h : ends a (some w) [])
    : (save w >>= fun _ => Pure.pure a).Along asks g s ends := by
  rw [Operation.save_bind]
  exact ⟨fun _ _ _ => rfl, a, [], h, fun _ _ => rfl⟩

/-- A write is the end of an operation that makes a change known after it. -/
theorem Along.save_announce {w : Write} {change : Change α}
    (h : ends change.result (some w) change.notice.toList)
    : (save w >>= fun _ => announce change).Along asks g s ends := by
  rw [Operation.save_bind]
  exact ⟨fun _ _ _ => rfl, change.result, _, h, effect_announce change⟩

/-- What was found is gone on from; otherwise the operation is refused. -/
theorem Along.found_bind {found : Option β} {e : MarketError} {k : β → Operation α}
    (rest : ∀ b, found = some b → (k b).Along asks g s ends)
    : (orRefuse found e >>= k).Along asks g s ends := by
  cases found with
  | none => exact .refuse e
  | some b => exact rest b rfl

theorem Along.requireInstrument_bind {id : InstrumentId} {k : Instrument → Operation α}
    (asked : asks (.instrument id))
    (rest : ∀ x, s.instruments.get? id = some x → (k x).Along asks g s ends)
    : (requireInstrument id >>= k).Along asks g s ends := by
  rw [requireInstrument_eq, bind_assoc]
  exact .query_bind asked (.found_bind rest)

theorem Along.requireListing_bind {id : ListingId} {k : Listing → Operation α}
    (asked : asks (.listing id))
    (rest : ∀ x, s.listings.get? id = some x → (k x).Along asks g s ends)
    : (requireListing id >>= k).Along asks g s ends := by
  rw [requireListing_eq, bind_assoc]
  exact .query_bind asked (.found_bind rest)

theorem Along.requireBid_bind {id : BidId} {k : Bid → Operation α} (asked : asks (.bid id))
    (rest : ∀ b, s.bids.get? id = some b → (k b).Along asks g s ends)
    : (requireBid id >>= k).Along asks g s ends := by
  rw [requireBid_eq, bind_assoc]
  exact .query_bind asked (.found_bind rest)

theorem Along.requireAsk_bind {id : AskId} {k : Ask → Operation α} (asked : asks (.ask id))
    (rest : ∀ a, s.asks.get? id = some a → (k a).Along asks g s ends)
    : (requireAsk id >>= k).Along asks g s ends := by
  rw [requireAsk_eq, bind_assoc]
  exact .query_bind asked (.found_bind rest)

theorem Along.requireOpen_bind {id : ListingId} {k : Listing → Operation α}
    (asked : asks (.listing id))
    (rest : ∀ x, s.listings.get? id = some x → x.isOpen = true
      → (k x).Along asks g s ends)
    : (requireOpen id >>= k).Along asks g s ends := by
  rw [requireOpen, bind_assoc]
  refine .requireListing_bind asked fun x stored => ?_
  refine .ite_bind (fun _ => .refuse _) fun isOpen => ?_
  exact rest x stored (by simpa using isOpen)

theorem Along.requireUnoffered_bind {instrument : InstrumentId} {k : Unit → Operation α}
    (asked : asks (.openListing instrument))
    (rest : s.openListing? instrument = none → (k ()).Along asks g s ends)
    : (requireUnoffered instrument >>= k).Along asks g s ends := by
  rw [requireUnoffered, bind_assoc]
  refine .query_bind asked ?_
  simp only [Store.answer]
  cases offered : s.openListing? instrument with
  | none => exact rest offered
  | some other => exact .refuse _

theorem Along.requireOwner_bind {instrument : InstrumentId} {owner : CompanyId}
    {k : Ownership → Operation α} (asked : asks (.activeRow instrument))
    (rest : ∀ row, s.ledger.active? instrument = some row → row.owner = owner
      → (k row).Along asks g s ends)
    : (requireOwner instrument owner >>= k).Along asks g s ends := by
  rw [requireOwner, bind_assoc]
  refine .query_bind asked ?_
  simp only [Store.answer]
  cases active : s.ledger.active? instrument with
  | none => exact .refuse _
  | some row =>
      refine .ite_bind (fun _ => .refuse _) fun same => ?_
      exact rest row active (by simpa using same)

theorem Along.requireResolvable_bind {id : BidId} {actor : Actor} {k : Bid → Operation α}
    (asked : asks (.bid id))
    (listing : ∀ b, s.bids.get? id = some b → asks (.listing b.listing))
    (rest : ∀ b listing, s.bids.get? id = some b → b.isPending = true
      → s.listings.get? b.listing = some listing → listing.isOpen = true
      → actor.actsFor listing.seller = true → (k b).Along asks g s ends)
    : (requireResolvable id actor >>= k).Along asks g s ends := by
  rw [requireResolvable, bind_assoc]
  refine .requireBid_bind asked fun b stored => ?_
  refine .ite_bind (fun _ => .refuse _) fun pending => ?_
  rw [bind_assoc]
  refine .requireOpen_bind (listing b stored) fun x listed isOpen => ?_
  refine .ite_bind (fun _ => .refuse _) fun seller => ?_
  exact rest b x stored (by simpa using pending) listed isOpen (by simpa using seller)

end Steps

end Operation

end DebtMarket
