import DebtMarket.Proofs.Floor.RowOrder
import DebtMarket.Proofs.Floor.Selection

/-! The audience of a floor. Events are handed to an outlet that may refuse them, and a
receiver may take them from there at any time or be dropped; nothing of this is ever seen by
the tasks. Whatever the audience does, the tasks take the same steps and come to the same
results, the records are the same, and the same changes are made known. If the stores come to
go through their rows in other orders meanwhile, all this is so but for the order of bids that
are equally old.
-/

namespace DebtMarket

namespace Publisher

/-- The channel of a publisher is open and holds the first events, as many as it has room for.
-/
def Retains (p : Publisher) (capacity : Nat) : Prop :=
  p.outlet = .channel ⟨capacity, p.events.take capacity, true⟩

variable {p : Publisher} {capacity : Nat}

theorem retains_start (capacity : Nat)
    : (start (.channel (.empty capacity))).Retains (max capacity 1) := by
  simp [Retains, events, start, Channel.empty]

/-- A channel that is never received from fills up and then refuses whatever comes. -/
theorem Retains.publish (h : p.Retains capacity) (e : Event)
    : (p.publish e).Retains capacity := by
  rw [Retains, events_publish, Publisher.publish, h]
  by_cases full : capacity ≤ p.events.length
  · have refused : Channel.send ⟨capacity, p.events.take capacity, true⟩ e = .error .full := by
      simp [Channel.send, full]
    rw [List.take_append_of_le_length full, Outlet.publish, refused]
  · have room : p.events.length < capacity := Nat.lt_of_not_le full
    have taken : Channel.send ⟨capacity, p.events.take capacity, true⟩ e
        = .ok ⟨capacity, p.events ++ [e], true⟩ := by
      simp [Channel.send, full, List.take_of_length_le (Nat.le_of_lt room)]
    have fits : (p.events ++ [e]).length ≤ capacity := by
      rw [List.length_append, List.length_singleton]
      omega
    rw [List.take_of_length_le fits, Outlet.publish, taken]

end Publisher

-----------------------------------------------------------------------------------------
-- Markets that a task cannot tell apart
-----------------------------------------------------------------------------------------

namespace Market

/-- Markets that differ at most in their outlets and, unless they name events in the same way,
in the identifiers of events.
-/
structure Alike (m m₁ : Market) (named : Prop) : Prop where
  clock : m.clock = m₁.clock
  store : m.store = m₁.store
  locks : m.locks = m₁.locks
  drawn : m.drawn = m₁.drawn
  source : ∀ kind, (kind = .event → named) → m.source kind = m₁.source kind
  notices : m.publisher.notices = m₁.publisher.notices
  events : named → m.publisher.events = m₁.publisher.events

namespace Alike

variable {m m₁ m₂ : Market} {named : Prop}

theorem symm (h : m.Alike m₁ named) : m₁.Alike m named where
  clock := h.clock.symm
  store := h.store.symm
  locks := h.locks.symm
  drawn := h.drawn.symm
  source := fun kind same => (h.source kind same).symm
  notices := h.notices.symm
  events := fun same => (h.events same).symm

theorem trans (h : m.Alike m₁ named) (h₁ : m₁.Alike m₂ named) : m.Alike m₂ named where
  clock := h.clock.trans h₁.clock
  store := h.store.trans h₁.store
  locks := h.locks.trans h₁.locks
  drawn := h.drawn.trans h₁.drawn
  source := fun kind same => (h.source kind same).trans (h₁.source kind same)
  notices := h.notices.trans h₁.notices
  events := fun same => (h.events same).trans (h₁.events same)

theorem relock (h : m.Alike m₁ named) (locks : Locks)
    : Alike { m with locks } { m₁ with locks } named :=
  { h with locks := rfl }

theorem setClock (h : m.Alike m₁ named) (now : Instant)
    : (m.setClock now).Alike (m₁.setClock now) named :=
  { h with clock := rfl }

/-- What was handed to the outlet counts, and not what became of it there. -/
theorem left (h : m.Alike m₁ named) {publisher : Publisher}
    (log : publisher.log = m.publisher.log)
    : Alike { m with publisher } m₁ named where
  clock := h.clock
  store := h.store
  locks := h.locks
  drawn := h.drawn
  source := h.source
  notices := by
    rw [← h.notices]
    simp only [Publisher.notices, Publisher.events, log]
  events := fun same => by
    rw [← h.events same]
    simp only [Publisher.events, log]

/-- A call is answered alike, unless it asks for the identifier of an event; a change that is
made known is told alike, be it taken or refused.
-/
theorem answer (h : m.Alike m₁ named) (c : Call) (unasked : c ≠ .draw .event)
    : (m.answer c).1 = (m₁.answer c).1 ∧ (m.answer c).2.Alike (m₁.answer c).2 named := by
  cases c with
  | now => exact ⟨h.clock, h⟩
  | draw kind =>
      have source := h.source kind fun same => (unasked (same ▸ rfl)).elim
      refine ⟨?_, { h with drawn := ?_ }⟩
      · simp only [Market.answer, Market.draw, source, h.drawn]
      · simp only [Market.answer, Market.draw, h.drawn]
  | query q => exact ⟨congrArg (fun s : Store => s.answer q) h.store, h⟩
  | write w =>
      simp only [Market.answer, Market.write_eq, h.store]
      cases m₁.store.write w with
      | ok s => exact ⟨rfl, { h with store := rfl }⟩
      | error e => exact ⟨rfl, h⟩
  | publish happening time =>
      refine ⟨rfl, { h with drawn := ?_, notices := ?_, events := fun same => ?_ }⟩
      · simp only [Market.answer, Market.publish, Market.draw, h.drawn]
      · simp only [Market.answer, Market.publish, Market.draw, Publisher.notices_publish,
          h.notices, Event.notice]
      · have source := h.source .event fun _ => same
        simp only [Market.answer, Market.publish, Market.draw, Publisher.events_publish,
          h.events same, source, h.drawn]

theorem leave (h : m.Alike m₁ named) (guard : Guard)
    : (m.leave guard).Alike (m₁.leave guard) named := by
  unfold Market.leave
  rw [h.locks]
  exact h.relock _

theorem leaves (h : m.Alike m₁ named) (guards : List Guard)
    : (guards.foldl Market.leave m).Alike (guards.foldl Market.leave m₁) named := by
  rw [Market.leaves_eq, Market.leaves_eq, h.locks]
  exact h.relock _

end Alike

end Market

/-- An orderly operation never asks for the identifier of an event. -/
theorem Operation.Orderly.unasked {α : Type} {kept taken : List Scope} {d : Drawn}
    {kind : IdKind} {next : Id kind → Operation α}
    (h : Operation.Orderly kept taken d (.call (.draw kind) next))
    : kind ≠ .event := by
  cases h with
  | draw named undrawn rest => exact named
  | close closing => cases closing

namespace Task

variable {t : Task} {m m₁ : Market} {s : Store} {named : Prop}

/-- The same holds of a consistent task. -/
theorem Consistent.unasked (h : t.Consistent s) {c : Call} {next : c.Reply → Operation Outcome}
    (running : t.stage = .running (.call c next))
    : c ≠ .draw .event := by
  rintro rfl
  exact (h.orderly _ (rest?_running running)).unasked rfl

/-- An operation goes on alike on markets that are alike, by cases on it. -/
theorem Consistent.advance_alike {rest : Operation Outcome} (h : t.Consistent s)
    (running : t.stage = .running rest) (alike : m.Alike m₁ named)
    : (t.advance m rest).1 = (t.advance m₁ rest).1
      ∧ (t.advance m rest).2.Alike (t.advance m₁ rest).2 named := by
  cases rest with
  | done a => exact ⟨rfl, alike⟩
  | fail failure => exact ⟨rfl, alike⟩
  | call c next =>
      obtain ⟨reply, left⟩ := alike.answer c (h.unasked running)
      refine ⟨?_, left⟩
      simp only [Task.advance, reply]
  | lock scope next =>
      unfold Task.advance
      rw [alike.locks]
      exact ⟨rfl, alike.relock _⟩
  | unlock next =>
      cases held : t.held with
      | nil =>
          simp only [Task.advance, held]
          exact ⟨trivial, alike⟩
      | cons guard others =>
          simp only [Task.advance, held]
          exact ⟨trivial, alike.leave guard⟩

/-- A task takes the same step on markets that are alike, by cases on its stage. -/
theorem Consistent.step_alike (h : t.Consistent s) (alike : m.Alike m₁ named)
    : (t.step m).1 = (t.step m₁).1 ∧ (t.step m).2.Alike (t.step m₁).2 named := by
  unfold Task.step
  cases stage : t.stage with
  | running rest => exact h.advance_alike stage alike
  | entering guard rest =>
      rw [alike.locks]
      exact ⟨rfl, alike.relock _⟩
  | waiting guard rest =>
      dsimp only
      rw [alike.locks]
      split
      · exact ⟨rfl, alike⟩
      · exact ⟨rfl, alike⟩
  | finished result => exact ⟨rfl, alike⟩
  | dropped => exact ⟨rfl, alike⟩

/-- A task is dropped alike on markets that are alike. -/
theorem drop_alike (t : Task) (alike : m.Alike m₁ named)
    : (t.drop m).1 = (t.drop m₁).1 ∧ (t.drop m).2.Alike (t.drop m₁).2 named := by
  unfold Task.drop
  split
  · exact ⟨rfl, alike⟩
  · exact ⟨rfl, alike.leaves _⟩

end Task

/-- A call makes at most one change known. -/
theorem Market.answer_publisher (m : Market) (c : Call)
    : (m.answer c).2.publisher = m.publisher
      ∨ ∃ e, (m.answer c).2.publisher = m.publisher.publish e := by
  cases c with
  | write w =>
      simp only [Market.answer, Market.write_eq]
      cases m.store.write w with
      | ok s => exact .inl rfl
      | error e => exact .inl rfl
  | publish happening time => exact .inr ⟨_, rfl⟩
  | now | draw kind | query q => exact .inl rfl

-----------------------------------------------------------------------------------------
-- Floors with and without an audience
-----------------------------------------------------------------------------------------

namespace Floor

/-- What happens next on a floor with an audience. -/
inductive Moment where
  | turn (turn : Turn)
  /-- The receiver takes the oldest event from the channel. -/
  | receive
  /-- The receiver is dropped, and what it has not taken is lost. -/
  | close

/-- The turn of a moment, unless only the receiver is at work. -/
def Moment.turn? : Moment → Option Turn
  | .turn next => some next
  | .receive => none
  | .close => none

/-- The floor after a moment. -/
def attend (f : Floor) : Moment → Floor
  | .turn turn => f.after turn
  | .receive =>
      { f with market := { f.market with publisher := f.market.publisher.receive.2 } }
  | .close =>
      { f with market := { f.market with publisher := f.market.publisher.close.2 } }

/-- The floor after some moments. -/
def attended (f : Floor) (moments : List Moment) : Floor :=
  moments.foldl attend f

/-- Floors with the same tasks on markets that are alike. -/
structure Alike (f f₁ : Floor) (named : Prop) : Prop where
  tasks : f.tasks = f₁.tasks
  market : f.market.Alike f₁.market named

namespace Alike

variable {f f₁ : Floor} {named : Prop}

theorem refl (f : Floor) (named : Prop) : f.Alike f named :=
  ⟨rfl, rfl, rfl, rfl, rfl, fun _ _ => rfl, rfl, fun _ => rfl⟩

/-- A task changes floors alike if it changes their markets alike. -/
theorem change (h : f.Alike f₁ named) (index : Nat) (g : Task → Market → Task × Market)
    (changes : ∀ t ∈ f₁.tasks, (g t f.market).1 = (g t f₁.market).1
      ∧ (g t f.market).2.Alike (g t f₁.market).2 named)
    : (f.change index g).Alike (f₁.change index g) named := by
  simp only [Floor.change, h.tasks]
  cases found : f₁.tasks[index]? with
  | none => exact h
  | some t =>
      obtain ⟨task, market⟩ := changes t (List.mem_of_getElem? found)
      exact ⟨congrArg (f₁.tasks.set index) task, market⟩

/-- Floors that are alike stay so after the same turn, by cases on the turn. -/
theorem after (h : f.Alike f₁ named) (consistent : f₁.Consistent) (turn : Turn)
    : (f.after turn).Alike (f₁.after turn) named := by
  cases turn with
  | request c => exact ⟨congrArg (· ++ [Task.start c]) h.tasks, h.market⟩
  | setClock now => exact ⟨h.tasks, h.market.setClock now⟩
  | step index =>
      exact h.change index _ fun t member => (consistent.tasks t member).step_alike h.market
  | drop index => exact h.change index _ fun t _ => t.drop_alike h.market
  | proceed index =>
      simp only [Floor.after, h.tasks]
      cases f₁.tasks[index]? with
      | none => exact h
      | some t =>
          cases sequel : t.sequel? with
          | none => simpa only [sequel] using h
          | some next =>
              simp only [sequel]
              exact ⟨rfl, h.market⟩

/-- A floor with an audience stays like the one that takes the same turns without any, by
induction on the moments.
-/
theorem attended (h : f.Alike f₁ named) (consistent : f₁.Consistent) (moments : List Moment)
    : (f.attended moments).Alike (f₁.run (moments.filterMap Moment.turn?)) named := by
  induction moments generalizing f f₁ with
  | nil => exact h
  | cons moment rest ih =>
      cases moment with
      | turn turn => exact ih (h.after consistent turn) (consistent.after turn)
      | receive => exact ih ⟨h.tasks, h.market.left rfl⟩ consistent
      | close => exact ih ⟨h.tasks, h.market.left rfl⟩ consistent

end Alike

/-- Floors that are given the same are alike from the start, whatever their outlets are. -/
theorem alike_start (clock : Instant) (threshold : Nat) (outlet outlet₁ : Outlet)
    {source source₁ : IdKind → Nat → Uuid}
    (given : ∀ kind, kind ≠ .event → source kind = source₁ kind)
    : (start clock threshold outlet source).Alike (start clock threshold outlet₁ source₁)
        (source .event = source₁ .event) where
  tasks := rfl
  market := {
    clock := rfl
    store := rfl
    locks := rfl
    drawn := rfl
    source := fun kind same => by
      by_cases event : kind = .event
      · rw [event]
        exact same event
      · exact given kind event
    notices := rfl
    events := fun _ => rfl
  }

/-- A turn makes at most one change known. -/
theorem after_publisher (f : Floor) (turn : Turn)
    : (f.after turn).market.publisher = f.market.publisher
      ∨ ∃ e, (f.after turn).market.publisher = f.market.publisher.publish e := by
  cases turn with
  | request c => exact .inl rfl
  | setClock now => exact .inl rfl
  | step index =>
      simp only [after, change]
      cases f.tasks[index]? with
      | none => exact .inl rfl
      | some t =>
          have steps := t.steps_step f.market
          dsimp only
          generalize (t.step f.market).1 = t', (t.step f.market).2 = m' at steps ⊢
          cases steps with
          | idle | lock | unlock => exact .inl rfl
          | @call c next rest => exact f.market.answer_publisher c
  | drop index =>
      simp only [after, change]
      cases f.tasks[index]? with
      | none => exact .inl rfl
      | some t =>
          obtain ⟨locks, left⟩ := t.drop_market f.market
          have same : (t.drop f.market).2.publisher = f.market.publisher := by rw [left]
          exact .inl same
  | proceed index =>
      simp only [after]
      split
      · split
        · exact .inl rfl
        · exact .inl rfl
      · exact .inl rfl

-----------------------------------------------------------------------------------------
-- Floors whose rows change their order
-----------------------------------------------------------------------------------------

/-- A floor comes to another one while the moments pass. Before each of them its store may have
come to go through its rows in another order.
-/
inductive Wanders : Floor → List Moment → Floor → Prop
  | nil (f : Floor) : Wanders f [] f
  | cons {f w : Floor} {moment : Moment} {rest : List Moment} {store : Store}
    (order : f.market.store.Rearranged store)
    (next : Wanders ({ f with market := { f.market with store } }.attend moment) rest w)
    : Wanders f (moment :: rest) w

/-- A store may keep its order all along, by induction on the moments. -/
theorem wanders_attended (f : Floor) (moments : List Moment)
    : f.Wanders moments (f.attended moments) := by
  induction moments generalizing f with
  | nil => exact .nil f
  | cons moment rest ih => exact .cons (.refl _) (ih _)

/-- A channel whose receiver does nothing keeps the first events, by induction on the moments.
-/
theorem Wanders.retains {f w : Floor} {moments : List Moment} (h : f.Wanders moments w)
    {capacity : Nat} (retained : f.market.publisher.Retains capacity)
    (idle : ∀ moment ∈ moments, moment.turn? ≠ none)
    : w.market.publisher.Retains capacity := by
  induction h with
  | nil => exact retained
  | @cons f w moment rest store order next ih =>
      have later : ∀ moment ∈ rest, moment.turn? ≠ none := fun moment member =>
        idle moment (List.mem_cons_of_mem _ member)
      cases moment with
      | turn turn =>
          refine ih ?_ later
          rcases after_publisher { f with market := { f.market with store } } turn with
            same | ⟨e, published⟩
          · exact Eq.mpr (congrArg (Publisher.Retains · capacity) same) retained
          · exact Eq.mpr (congrArg (Publisher.Retains · capacity) published)
              (retained.publish e)
      | receive => exact (idle _ List.mem_cons_self rfl).elim
      | close => exact (idle _ List.mem_cons_self rfl).elim

/-- Floors that are given the same concur from the start, whatever their outlets are. -/
theorem concur_start (clock : Instant) (threshold : Nat) (outlet outlet₁ : Outlet)
    {source source₁ : IdKind → Nat → Uuid}
    (given : ∀ kind, kind ≠ .event → source kind = source₁ kind)
    : (start clock threshold outlet source).Concur (start clock threshold outlet₁ source₁) where
  tasks := .nil
  market := {
    clock := rfl
    store := ⟨Store.sound_empty.tables_keyed, Store.unrivalled_empty, .refl _⟩
    locks := rfl
    drawn := rfl
    source := given
    notices := noticesConcur_refl []
  }

/-- A floor whose rows change their order concurs with the one that takes the same turns and
keeps them in theirs, by induction on the moments.
-/
theorem Concur.wanders {f w w' : Floor} {moments : List Moment} (h : f.Concur w)
    (run : w.Wanders moments w')
    : (f.run (moments.filterMap Moment.turn?)).Concur w' := by
  induction run generalizing f with
  | nil => exact h
  | @cons w w' moment rest store order next ih =>
      have moved : f.Concur { w with market := { w.market with store } } :=
        ⟨h.tasks, { h.market with store := h.market.store.trans order }⟩
      cases moment with
      | turn turn => exact ih (moved.after turn)
      | receive => exact ih ⟨moved.tasks, { moved.market with }⟩
      | close => exact ih ⟨moved.tasks, { moved.market with }⟩

/-- Nothing that becomes of the events is seen by the tasks. On two floors that are given the
same times and the same identifiers of records, and on which the same turns are taken, all
tasks do the same, whatever the outlets are and whenever the receivers take events or are
dropped: they come to the same results, the same is stored, and the same changes are made
known at the same times. A channel from which nothing is received holds just the first of
the events, as many as it has room for.
-/
theorem attended_alike (clock : Instant) (threshold : Nat) (outlet outlet₁ : Outlet)
    (source source₁ : IdKind → Nat → Uuid) (moments moments₁ : List Moment)
    (given : ∀ kind, kind ≠ .event → source kind = source₁ kind)
    (turns : moments.filterMap Moment.turn? = moments₁.filterMap Moment.turn?)
    : let f := (start clock threshold outlet source).attended moments
      let f₁ := (start clock threshold outlet₁ source₁).attended moments₁
      f.tasks = f₁.tasks
      ∧ f.market.store = f₁.market.store
      ∧ f.market.publisher.notices = f₁.market.publisher.notices
      ∧ (source .event = source₁ .event
          → f.market.publisher.events = f₁.market.publisher.events)
      ∧ (∀ capacity, outlet₁ = .channel (.empty capacity)
          → (∀ moment ∈ moments₁, moment.turn? ≠ none)
          → ∃ queue, f₁.market.publisher.outlet = .channel ⟨max capacity 1, queue, true⟩
              ∧ queue.map Event.notice
                = f.market.publisher.notices.take (max capacity 1)
              ∧ (source .event = source₁ .event
                  → queue = f.market.publisher.events.take (max capacity 1)))
      ∧ ∀ w w₁, (start clock threshold outlet source).Wanders moments w
          → (start clock threshold outlet₁ source₁).Wanders moments₁ w₁
          → w.Agrees w₁
            ∧ ∀ capacity, outlet₁ = .channel (.empty capacity)
              → (∀ moment ∈ moments₁, moment.turn? ≠ none)
              → ∃ queue, w₁.market.publisher.outlet = .channel ⟨max capacity 1, queue, true⟩
                  ∧ NoticesConcur (w.market.publisher.notices.take (max capacity 1))
                    (queue.map Event.notice) := by
  intro f f₁
  have alike := (alike_start clock threshold outlet outlet₁ given).attended
    (consistent_start ..) moments
  have alike₁ := (Alike.refl _ (source .event = source₁ .event)).attended
    (consistent_start clock threshold outlet₁ source₁) moments₁
  rw [turns] at alike
  have tasks : f.tasks = f₁.tasks := alike.tasks.trans alike₁.tasks.symm
  have market : f.market.Alike f₁.market (source .event = source₁ .event) :=
    alike.market.trans alike₁.market.symm
  refine ⟨tasks, market.store, market.notices, market.events, fun capacity channel idle => ?_,
    fun w w₁ run run₁ => ?_⟩
  · have retained : f₁.market.publisher.Retains (max capacity 1) :=
      (wanders_attended _ moments₁).retains (channel ▸ Publisher.retains_start capacity) idle
    refine ⟨_, retained, ?_, fun same => ?_⟩
    · rw [List.map_take, market.notices]
      rfl
    · rw [market.events same]
  · have concur := (concur_start clock threshold outlet₁ outlet fun kind named =>
      (given kind named).symm).wanders run
    have concur₁ := (concur_start clock threshold outlet₁ outlet₁ fun _ _ => rfl).wanders run₁
    rw [turns] at concur
    have agrees : w.Agrees w₁ := concur.agrees concur₁
    refine ⟨agrees, fun capacity channel idle => ?_⟩
    have retained : w₁.market.publisher.Retains (max capacity 1) :=
      run₁.retains (channel ▸ Publisher.retains_start capacity) idle
    refine ⟨_, retained, ?_⟩
    rw [List.map_take]
    exact List.forall₂_take _ agrees.notices

/-- A channel with room for one event that nothing is received from refuses the second one,
and no task does otherwise than on a floor whose outlet takes every event.
-/
theorem attended_alike_full
    : let turns := Sample.inTurn (Sample.acceptances.take 2)
      let source : IdKind → Nat → Uuid := fun _ n => ⟨BitVec.ofNat 128 n⟩
      let f := (start Market.Sample.newYear 1 .unbounded source).attended
        (turns.map .turn ++ [.receive])
      let f₁ := (start Market.Sample.newYear 1 (.channel (.empty 1)) source).attended
        (turns.map .turn)
      f.tasks = f₁.tasks
      ∧ f.market.store = f₁.market.store
      ∧ f₁.market.publisher.log.map Publication.refusal = [none, some .full]
      ∧ f.market.publisher.events.length = 2
      ∧ f₁.market.publisher.outlet
        = .channel ⟨1, f.market.publisher.events.take 1, true⟩ := by
  intro turns source
  have same : (turns.map Moment.turn ++ [Moment.receive]).filterMap Moment.turn?
      = (turns.map Moment.turn).filterMap Moment.turn? := by
    rw [List.filterMap_append]
    exact List.append_nil _
  have alike := attended_alike Market.Sample.newYear 1 .unbounded (.channel (.empty 1))
    source source (turns.map .turn ++ [.receive]) (turns.map .turn) (fun _ _ => rfl) same
  have idle : ∀ moment ∈ turns.map Moment.turn, moment.turn? ≠ none := by
    intro moment member
    obtain ⟨turn, -, rfl⟩ := List.mem_map.1 member
    exact Option.some_ne_none turn
  dsimp only at alike ⊢
  obtain ⟨tasks, store, -, -, holds, -⟩ := alike
  obtain ⟨queue, outlet, -, first⟩ := holds 1 rfl idle
  refine ⟨tasks, store, ?_, ?_, ?_⟩
  · cbv
  · cbv
  · rw [first rfl, Nat.max_self] at outlet
    exact outlet

end Floor

end DebtMarket
