import DebtMarket.Proofs.Floor.Chronicle
import DebtMarket.Proofs.Operation.RowOrder

/-! The floor and the order of rows. Between any two steps of its tasks the store may come to go
through its rows in another order. The tasks take the same steps all the same, and what they end
with and make known differs at most in the order of bids that are equally old.
-/

namespace DebtMarket

namespace Publisher

/-- The events that a publisher was handed, whether its outlet took them or refused them. -/
def events (p : Publisher) : List Event :=
  p.log.map Publication.event

/-- The changes that a publisher was told of, with their times. -/
def notices (p : Publisher) : Notices :=
  p.events.map Event.notice

variable {p : Publisher}

@[simp]
theorem events_publish (p : Publisher) (e : Event) : (p.publish e).events = p.events ++ [e] :=
  List.map_append

@[simp]
theorem notices_publish (p : Publisher) (e : Event)
    : (p.publish e).notices = p.notices ++ [e.notice] := by
  rw [notices, events_publish, List.map_append]
  rfl

end Publisher

-----------------------------------------------------------------------------------------
-- Markets and tasks that concur
-----------------------------------------------------------------------------------------

/-- Markets that differ at most in the order of their rows, in what became of their events, and
in the identifiers of these.
-/
structure Market.Concur (m m₁ : Market) : Prop where
  clock : m.clock = m₁.clock
  store : m.store.Mirrors m₁.store
  locks : m.locks = m₁.locks
  drawn : m.drawn = m₁.drawn
  source : ∀ kind, kind ≠ .event → m.source kind = m₁.source kind
  notices : NoticesConcur m.publisher.notices m₁.publisher.notices

/-- Tasks got as far as each other, and will go on so as long as what they are answered concurs.
-/
inductive Stage.Concur : Stage → Stage → Prop
  | running {rest rest₁} (same : Operation.Concur Outcome.Concur rest rest₁)
    : Concur (.running rest) (.running rest₁)
  | entering (guard : Guard) {rest rest₁} (same : Operation.Concur Outcome.Concur rest rest₁)
    : Concur (.entering guard rest) (.entering guard rest₁)
  | waiting (guard : Guard) {rest rest₁} (same : Operation.Concur Outcome.Concur rest rest₁)
    : Concur (.waiting guard rest) (.waiting guard rest₁)
  | finished {result result₁} (same : EndAlike Failure.Concur Outcome.Concur result result₁)
    : Concur (.finished result) (.finished result₁)
  | dropped : Concur .dropped .dropped

/-- Tasks for the same request that hold the same locks and got as far as each other. -/
structure Task.Concur (t t₁ : Task) : Prop where
  request : t₁.request = t.request
  continued : t₁.continued = t.continued
  held : t₁.held = t.held
  drawn : t₁.drawn = t.drawn
  stage : t.stage.Concur t₁.stage

namespace Market.Concur

variable {m m₁ : Market}

theorem relock (h : m.Concur m₁) (locks : Locks) : Concur { m with locks } { m₁ with locks } :=
  { h with locks := rfl }

theorem leave (h : m.Concur m₁) (guard : Guard) : (m.leave guard).Concur (m₁.leave guard) := by
  unfold Market.leave
  rw [h.locks]
  exact h.relock _

theorem leaves (h : m.Concur m₁) (guards : List Guard)
    : (guards.foldl Market.leave m).Concur (guards.foldl Market.leave m₁) := by
  rw [Market.leaves_eq, Market.leaves_eq, h.locks]
  exact h.relock _

/-- Changes that concur are made known alike. -/
theorem publish (h : m.Concur m₁) {happening happening₁ : Happening}
    (same : happening.Concur happening₁) (time : Instant)
    : (m.publish happening time).Concur (m₁.publish happening₁ time) where
  clock := h.clock
  store := h.store
  locks := h.locks
  drawn := by simp only [Market.publish, Market.draw, h.drawn]
  source := h.source
  notices := by
    simp only [Market.publish, Market.draw, Publisher.notices_publish]
    exact List.rel_append h.notices (.cons ⟨same, rfl⟩ .nil)

end Market.Concur

namespace Task

variable {t t₁ : Task} {m m₁ : Market}

theorem concur_start (c : Command) : (start c).Concur (start c) :=
  ⟨rfl, rfl, rfl, rfl, .running c.concur_opening⟩

/-- A task goes on with the same sequel as one that concurs, by cases on their stages. -/
theorem Concur.sequel? (h : t.Concur t₁) : t₁.sequel? = t.sequel? := by
  have stages := h.stage
  rw [Task.sequel?, Task.sequel?, h.request, h.continued]
  generalize t.stage = stage, t₁.stage = stage₁ at stages
  cases stages with
  | finished same =>
      cases same with
      | error => rfl
      | ok same => simp only [t.request.sequel?_concur same]
  | _ => rfl

/-- A task that got a reply concurs with one that got one that has the same effect. -/
theorem Concur.goes (h : t.Concur t₁) {drawn drawn₁ : Drawn} (same : drawn₁ = drawn)
    {rest rest₁ : Operation Outcome} (goes : Operation.Concur Outcome.Concur rest rest₁)
    : Concur { t with drawn, stage := .running rest }
        { t₁ with drawn := drawn₁, stage := .running rest₁ } :=
  { h with drawn := same, stage := .running goes }

/-- Operations that concur go on so on markets that do, by cases on them. -/
theorem Concur.advance (h : t.Concur t₁) (markets : m.Concur m₁) {rest rest₁ : Operation Outcome}
    (same : Operation.Concur Outcome.Concur rest rest₁)
    : (t.advance m rest).1.Concur (t₁.advance m₁ rest₁).1
      ∧ (t.advance m rest).2.Concur (t₁.advance m₁ rest₁).2 := by
  cases same with
  | done same => exact ⟨{ h with stage := .finished (.ok same) }, markets⟩
  | fail same => exact ⟨{ h with stage := .finished (.error same) }, markets⟩
  | now rest =>
      simp only [Task.advance, Market.answer, Drawn.after, ← markets.clock]
      exact ⟨h.goes (by rw [h.drawn]) (rest _), markets⟩
  | @draw kind _ _ named rest =>
      simp only [Task.advance, Market.answer, Market.draw, Drawn.after,
        ← markets.source kind named, ← markets.drawn]
      refine ⟨h.goes (by rw [h.drawn]) (rest _), ?_⟩
      exact { markets with drawn := rfl }
  | @query q _ _ rest =>
      exact ⟨h.goes h.drawn (rest _ _ (markets.store.answer q)), markets⟩
  | @write w w₁ _ _ same refused accepted =>
      have ends := markets.store.write same
      simp only [Task.advance, Market.answer, Market.write_eq, Drawn.after]
      generalize m.store.write w = left, m₁.store.write w₁ = right at ends
      cases ends with
      | error errors => exact ⟨h.goes h.drawn (refused _ _ errors), markets⟩
      | ok stores => exact ⟨h.goes h.drawn accepted, { markets with store := stores }⟩
  | publish same rest =>
      exact ⟨h.goes h.drawn rest, markets.publish same _⟩
  | lock rest =>
      simp only [Task.advance, ← markets.locks]
      exact ⟨{ h with stage := .entering _ rest }, markets.relock _⟩
  | unlock rest =>
      simp only [Task.advance, h.held]
      cases t.held with
      | nil => exact ⟨{ h with held := rfl, stage := .running rest }, markets⟩
      | cons guard held =>
          exact ⟨{ h with held := rfl, stage := .running rest }, markets.leave guard⟩

/-- Tasks that concur take the same step on markets that do, by cases on their stages. -/
theorem Concur.step (h : t.Concur t₁) (markets : m.Concur m₁)
    : (t.step m).1.Concur (t₁.step m₁).1 ∧ (t.step m).2.Concur (t₁.step m₁).2 := by
  have stages := h.stage
  unfold Task.step
  generalize t.stage = stage, t₁.stage = stage₁ at stages ⊢
  cases stages with
  | running same => exact h.advance markets same
  | entering guard same =>
      simp only [← markets.locks]
      exact ⟨{ h with stage := .waiting guard same }, markets.relock _⟩
  | waiting guard same =>
      simp only [← markets.locks]
      split
      · have held := congrArg (guard :: ·) h.held
        exact ⟨{ h with held, stage := .running same }, markets⟩
      · exact ⟨h, markets⟩
  | finished => exact ⟨h, markets⟩
  | dropped => exact ⟨h, markets⟩

theorem Concur.claims (h : t.Concur t₁) : t₁.claims = t.claims := by
  have stages := h.stage
  rw [Task.claims, Task.claims, h.held]
  generalize t.stage = stage, t₁.stage = stage₁ at stages
  cases stages <;> rfl

/-- Tasks that concur are dropped alike, by cases on their stages. -/
theorem Concur.drop (h : t.Concur t₁) (markets : m.Concur m₁)
    : (t.drop m).1.Concur (t₁.drop m₁).1 ∧ (t.drop m).2.Concur (t₁.drop m₁).2 := by
  have stages := h.stage
  have dropped : Concur { t with held := [], stage := .dropped }
      { t₁ with held := [], stage := .dropped } :=
    { h with held := rfl, stage := .dropped }
  have left := markets.leaves (t.claims.map Claim.guard)
  unfold Task.drop
  rw [h.claims]
  generalize t.stage = stage, t₁.stage = stage₁ at stages
  cases stages with
  | finished => exact ⟨h, markets⟩
  | _ => exact ⟨dropped, left⟩

end Task

-----------------------------------------------------------------------------------------
-- Floors that concur
-----------------------------------------------------------------------------------------

/-- Members of lists that are related are so in each place, by induction on the lists. -/
theorem forall₂_getElem? {α : Type} {R : α → α → Prop} {l l₁ : List α}
    (h : List.Forall₂ R l l₁) (index : Nat)
    : Option.Rel R l[index]? l₁[index]? := by
  induction h generalizing index with
  | nil => exact .none
  | cons same _ ih =>
      cases index with
      | zero => exact .some same
      | succ index => exact ih index

/-- Lists stay related when the same place is taken by members that are, by induction on them. -/
theorem forall₂_set {α : Type} {R : α → α → Prop} {l l₁ : List α} (h : List.Forall₂ R l l₁)
    (index : Nat) {a a₁ : α} (same : R a a₁)
    : List.Forall₂ R (l.set index a) (l₁.set index a₁) := by
  induction h generalizing index with
  | nil => exact .nil
  | cons first rest ih =>
      cases index with
      | zero => exact .cons same rest
      | succ index => exact .cons first (ih index)

namespace Floor

/-- Floors with tasks that concur on markets that do. -/
structure Concur (f f₁ : Floor) : Prop where
  tasks : List.Forall₂ Task.Concur f.tasks f₁.tasks
  market : f.market.Concur f₁.market

variable {f f₁ : Floor}

/-- A task changes floors alike if it changes their markets alike. -/
theorem Concur.change (h : f.Concur f₁) (index : Nat) (g : Task → Market → Task × Market)
    (changes : ∀ t t₁, t.Concur t₁ → (g t f.market).1.Concur (g t₁ f₁.market).1
      ∧ (g t f.market).2.Concur (g t₁ f₁.market).2)
    : (f.change index g).Concur (f₁.change index g) := by
  have found := forall₂_getElem? h.tasks index
  unfold Floor.change
  generalize f.tasks[index]? = task, f₁.tasks[index]? = task₁ at found
  cases found with
  | none => exact h
  | some same =>
      obtain ⟨task, market⟩ := changes _ _ same
      exact ⟨forall₂_set h.tasks index task, market⟩

/-- Floors that concur do so after the same turn, by cases on the turn. -/
theorem Concur.after (h : f.Concur f₁) (turn : Turn) : (f.after turn).Concur (f₁.after turn) := by
  have begun (c : Command) : List.Forall₂ Task.Concur [.start c] [.start c] :=
    .cons (Task.concur_start c) .nil
  cases turn with
  | request c => exact ⟨List.rel_append h.tasks (begun c), h.market⟩
  | setClock now => exact ⟨h.tasks, { h.market with clock := rfl }⟩
  | step index => exact h.change index _ fun t t₁ same => same.step h.market
  | drop index => exact h.change index _ fun t t₁ same => same.drop h.market
  | proceed index =>
      have found := forall₂_getElem? h.tasks index
      simp only [Floor.after]
      generalize f.tasks[index]? = task, f₁.tasks[index]? = task₁ at found
      cases found with
      | none => exact h
      | @some t t₁ same =>
          simp only [same.sequel?]
          cases t.sequel? with
          | none => exact h
          | some next =>
              have continued : Task.Concur { t with continued := true }
                  { t₁ with continued := true } :=
                { same with continued := rfl }
              exact ⟨List.rel_append (forall₂_set h.tasks index continued) (begun next), h.market⟩

end Floor

-----------------------------------------------------------------------------------------
-- Results
-----------------------------------------------------------------------------------------

/-- The result of a task, once it has finished. -/
def Task.result? (t : Task) : Option (Except Failure Outcome) :=
  match t.stage with
  | .finished result => some result
  | _ => none

/-- Tasks for the same request that have finished both, with results that concur, or neither. -/
structure Task.Agrees (t t₁ : Task) : Prop where
  request : t₁.request = t.request
  result : Option.Rel (EndAlike Failure.Concur Outcome.Concur) t.result? t₁.result?

/-- Floors on which the same was requested in the same order: the results are the same and so are
the records and what was made known, but for the order of rows and of bids that are equally old.
-/
structure Floor.Agrees (f f₁ : Floor) : Prop where
  tasks : List.Forall₂ Task.Agrees f.tasks f₁.tasks
  store : f.market.store.Rearranged f₁.market.store
  notices : NoticesConcur f.market.publisher.notices f₁.market.publisher.notices

theorem Task.Concur.result? {t t₁ : Task} (h : t.Concur t₁)
    : Option.Rel (EndAlike Failure.Concur Outcome.Concur) t.result? t₁.result? := by
  have stages := h.stage
  unfold Task.result?
  generalize t.stage = stage, t₁.stage = stage₁ at stages
  cases stages with
  | finished same => exact .some same
  | _ => exact .none

/-- Tasks that concur with the same one agree. -/
theorem Task.Concur.agrees {t t₁ t₂ : Task} (h : t.Concur t₁) (h' : t.Concur t₂)
    : t₁.Agrees t₂ := by
  refine ⟨h'.request.trans h.request.symm, ?_⟩
  have first := h.result?
  have second := h'.result?
  generalize t.result? = result, t₁.result? = result₁, t₂.result? = result₂ at first second ⊢
  cases first with
  | none =>
      obtain _ | ⟨⟩ := second
      exact .none
  | some same =>
      obtain ⟨same'⟩ | ⟨⟩ := second
      have back := same.symm Failure.Concur.symm Outcome.Concur.symm
      exact .some (back.trans Failure.Concur.trans Outcome.Concur.trans same')

/-- Tasks that concur with the same ones agree, by induction on them. -/
theorem agrees_of_concur {ts ts₁ ts₂ : List Task} (h : List.Forall₂ Task.Concur ts ts₁)
    (h' : List.Forall₂ Task.Concur ts ts₂)
    : List.Forall₂ Task.Agrees ts₁ ts₂ := by
  induction h generalizing ts₂ with
  | nil =>
      obtain ⟨⟩ := h'
      exact .nil
  | cons same _ ih =>
      obtain _ | ⟨same', rest'⟩ := h'
      exact .cons (same.agrees same') (ih rest')

/-- Floors that concur with the same one agree. -/
theorem Floor.Concur.agrees {f f₁ f₂ : Floor} (h : f.Concur f₁) (h' : f.Concur f₂)
    : f₁.Agrees f₂ where
  tasks := agrees_of_concur h.tasks h'.tasks
  store := h.market.store.same.symm.trans h'.market.store.same
  notices := h.market.notices.symm.trans h'.market.notices

end DebtMarket
