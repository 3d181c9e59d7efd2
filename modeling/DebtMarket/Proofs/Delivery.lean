import Mathlib.Data.List.Induction
import DebtMarket.Publisher

/-! The delivery of events. Events are published into a channel, whose receiver takes them
out of it or is dropped, in whatever order these steps come. What was received and what is
still queued are together exactly the events that were taken, in the order in which they were
published, and an event that was refused leaves no trace.
-/

namespace DebtMarket

-----------------------------------------------------------------------------------------
-- What a channel does with an item
-----------------------------------------------------------------------------------------

namespace Channel

variable {α : Type} {c c' : Channel α} {a : α}

/-- An item is taken exactly if the channel is open and has room for it. -/
theorem send_eq_ok
    : c.send a = .ok c' ↔ c.isOpen = true ∧ c.queue.length < c.capacity
        ∧ c' = { c with queue := c.queue ++ [a] } := by
  unfold send
  cases c.isOpen with
  | false => simp
  | true =>
      by_cases full : c.capacity ≤ c.queue.length
      · simp [full, Nat.not_lt_of_le full]
      · simp [full, Nat.lt_of_not_le full, eq_comm]

/-- An open channel refuses an item exactly if it is full. -/
theorem send_eq_full
    : c.send a = .error .full ↔ c.isOpen = true ∧ c.capacity ≤ c.queue.length := by
  unfold send
  cases c.isOpen with
  | false => simp
  | true =>
      by_cases full : c.capacity ≤ c.queue.length
      · simp [full]
      · simp [full]

/-- A channel whose receiving end is closed refuses every item as such. -/
theorem send_eq_closed : c.send a = .error .closed ↔ c.isOpen = false := by
  unfold send
  cases c.isOpen with
  | false => simp
  | true =>
      by_cases full : c.capacity ≤ c.queue.length
      · simp [full]
      · simp [full]

/-- What an open channel hands out is its oldest item. -/
theorem receive_queue (opened : c.isOpen = true)
    : c.receive.1.toList ++ c.receive.2.queue = c.queue := by
  unfold receive
  rw [opened]
  cases queue : c.queue with
  | nil => simp [queue]
  | cons a rest => rfl

/-- A closed channel hands out nothing. -/
theorem receive_closed (closed : c.isOpen = false) : c.receive = (none, c) := by
  rw [receive, closed]

/-- Receiving changes nothing but the queue. -/
theorem receive_keeps
    : c.receive.2.capacity = c.capacity ∧ c.receive.2.isOpen = c.isOpen := by
  unfold receive
  split <;> exact ⟨rfl, rfl⟩

end Channel

/-- The events that were taken and not refused, in order. -/
def Publication.taken (answers : List Publication) : List Event :=
  (answers.filter fun answer => answer.refusal.isNone).map Publication.event

namespace Publisher

/-- Why the publisher refuses an event, if it does. -/
def refusal? (p : Publisher) (e : Event) : Option Refusal :=
  (p.outlet.publish e).1

variable {p : Publisher} {c c' : Channel Event} {e : Event}

/-- An event is logged with the answer to it. -/
theorem log_publish (p : Publisher) (e : Event)
    : (p.publish e).log = p.log ++ [⟨e, p.refusal? e⟩] :=
  rfl

/-- An event that the channel takes is put into it, and counts as taken. -/
theorem publish_sent (outlet : p.outlet = .channel c) (sent : c.send e = .ok c')
    : (p.publish e).outlet = .channel c'
      ∧ Publication.taken (p.publish e).log = Publication.taken p.log ++ [e] := by
  simp [publish, Publication.taken, Outlet.publish, outlet, sent]

/-- An event that the channel refuses neither changes it nor counts as taken. -/
theorem publish_refused {refusal : Refusal} (outlet : p.outlet = .channel c)
    (refused : c.send e = .error refusal)
    : (p.publish e).outlet = .channel c
      ∧ Publication.taken (p.publish e).log = Publication.taken p.log := by
  simp [publish, Publication.taken, Outlet.publish, outlet, refused]

/-- The publisher answers as the channel does. -/
theorem refusal?_eq_some {refusal : Refusal} (outlet : p.outlet = .channel c)
    : p.refusal? e = some refusal ↔ c.send e = .error refusal := by
  rw [refusal?, outlet, Outlet.publish]
  cases c.send e with
  | ok queue => simp
  | error other => simp

end Publisher

-----------------------------------------------------------------------------------------
-- Steps of a delivery
-----------------------------------------------------------------------------------------

/-- A publisher, and the events that its receiver was handed so far. -/
structure Delivery where
  publisher : Publisher
  received : List Event

namespace Delivery

/-- What happens to the channel of a publisher. -/
inductive Step where
  /-- An event is published. -/
  | publish (event : Event)
  /-- The receiver takes the next event, if there is one. -/
  | receive
  /-- The receiver is dropped. -/
  | drop
deriving DecidableEq, Repr

/-- A publisher into a channel of a capacity, of which nothing was received. -/
def start (capacity : Nat) : Delivery :=
  { publisher := Publisher.start (.channel (.empty capacity)), received := [] }

/-- The delivery after a step. -/
def after (d : Delivery) : Step → Delivery
  | .publish event => { d with publisher := d.publisher.publish event }
  | .receive =>
      let (event?, publisher) := d.publisher.receive
      { publisher, received := d.received ++ event?.toList }
  | .drop => { d with publisher := d.publisher.close.2 }

/-- The delivery after some steps. -/
def run (d : Delivery) (steps : List Step) : Delivery :=
  steps.foldl after d

/-- The events that some steps publish. -/
def published (steps : List Step) : List Event :=
  steps.filterMap fun
    | .publish event => some event
    | .receive | .drop => none

/-- The events that some steps publish, each with the answer that the publisher gives to it when
it is published.
-/
def answers (d : Delivery) : List Step → List Publication
  | [] => []
  | .publish event :: rest =>
      ⟨event, d.publisher.refusal? event⟩ :: (d.after (.publish event)).answers rest
  | .receive :: rest => (d.after .receive).answers rest
  | .drop :: rest => (d.after .drop).answers rest

theorem run_append (d : Delivery) (steps more : List Step)
    : d.run (steps ++ more) = (d.run steps).run more :=
  List.foldl_append

/-- Every event that is published is answered, in the order of the steps: by induction on them. -/
theorem answers_events (d : Delivery) (steps : List Step)
    : (d.answers steps).map Publication.event = published steps := by
  induction steps generalizing d with
  | nil => rfl
  | cons step rest ih =>
      cases step with
      | publish event => exact congrArg (event :: ·) (ih _)
      | receive => exact ih _
      | drop => exact ih _

/-- What is logged is what was answered, by induction on the steps. -/
theorem log_run (d : Delivery) (steps : List Step)
    : (d.run steps).publisher.log = d.publisher.log ++ d.answers steps := by
  induction steps generalizing d with
  | nil => exact (List.append_nil _).symm
  | cons step rest ih =>
      have later : (d.run (step :: rest)).publisher.log
          = (d.after step).publisher.log ++ (d.after step).answers rest :=
        ih _
      rw [later]
      cases step with
      | publish event =>
          rw [after, Publisher.log_publish, List.append_assoc]
          rfl
      | receive => rfl
      | drop => rfl

/-- A delivery whose steps made its channel what it is, with every event accounted for: if it was
taken, it was received, is queued, or was lost when the receiver was dropped.
-/
structure Delivers (capacity : Nat) (steps : List Step) (d : Delivery) (c : Channel Event)
    : Prop where
  outlet : d.publisher.outlet = .channel c
  capacity : c.capacity = max capacity 1
  bounded : c.queue.length ≤ c.capacity
  isOpen : c.isOpen = true ↔ .drop ∉ steps
  conserved : c.isOpen = true → d.received ++ c.queue = Publication.taken d.publisher.log
  inOrder : d.received <+: Publication.taken d.publisher.log

theorem delivers_start (capacity : Nat) : Delivers capacity [] (start capacity) (.empty capacity)
    where
  outlet := rfl
  capacity := rfl
  bounded := Nat.zero_le _
  isOpen := by simp [Channel.empty]
  conserved := fun _ => rfl
  inOrder := List.prefix_refl _

variable {capacity : Nat} {steps : List Step} {d : Delivery} {c : Channel Event}

/-- A delivery goes on over every step, by cases on it and on what the channel answers. -/
theorem Delivers.after (h : Delivers capacity steps d c) (step : Step)
    : ∃ c', Delivers capacity (steps ++ [step]) (d.after step) c' := by
  cases step with
  | publish e =>
      have isOpen : c.isOpen = true ↔ .drop ∉ steps ++ [.publish e] := by simp [h.isOpen]
      cases answer : c.send e with
      | ok queue =>
          obtain ⟨outlet, taken⟩ := Publisher.publish_sent h.outlet answer
          obtain ⟨opened, room, rfl⟩ := Channel.send_eq_ok.1 answer
          refine ⟨_, outlet, h.capacity, ?_, isOpen, fun _ => ?_, ?_⟩
          · rw [List.length_append]
            exact room
          · rw [Delivery.after, taken, ← h.conserved opened, List.append_assoc]
          · rw [Delivery.after, taken]
            exact h.inOrder.trans (List.prefix_append _ _)
      | error refusal =>
          obtain ⟨outlet, taken⟩ := Publisher.publish_refused h.outlet answer
          refine ⟨c, outlet, h.capacity, h.bounded, isOpen, ?_, ?_⟩
          · rw [Delivery.after, taken]
            exact h.conserved
          · rw [Delivery.after, taken]
            exact h.inOrder
  | receive =>
      have isOpen : c.isOpen = true ↔ .drop ∉ steps ++ [.receive] := by simp [h.isOpen]
      obtain ⟨capacity, stays⟩ := Channel.receive_keeps (c := c)
      cases opened : c.isOpen with
      | true =>
          have queue := Channel.receive_queue opened
          have conserved := h.conserved opened
          rw [← queue, ← List.append_assoc] at conserved
          have received : d.after .receive
              = ⟨⟨.channel c.receive.2, d.publisher.log⟩, d.received ++ c.receive.1.toList⟩ := by
            rw [Delivery.after, Publisher.receive, h.outlet]
            rfl
          rw [received]
          refine ⟨c.receive.2, rfl, capacity.trans h.capacity, ?_, ?_, fun _ => conserved, ?_⟩
          · rw [capacity]
            refine Nat.le_trans ?_ h.bounded
            rw [← queue, List.length_append]
            exact Nat.le_add_left _ _
          · rw [stays]
            exact isOpen
          · exact ⟨_, conserved⟩
      | false =>
          have received : d.after .receive = d := by
            obtain ⟨⟨outlet, log⟩, received⟩ := d
            cases h.outlet
            simp [Delivery.after, Publisher.receive, Outlet.receive,
              Channel.receive_closed opened]
          rw [received]
          exact ⟨c, h.outlet, h.capacity, h.bounded, isOpen, h.conserved, h.inOrder⟩
  | drop =>
      have dropped : d.after .drop = ⟨⟨.channel c.close, d.publisher.log⟩, d.received⟩ := by
        rw [Delivery.after, Publisher.close, h.outlet]
        rfl
      rw [dropped]
      refine ⟨c.close, rfl, h.capacity, Nat.zero_le _, ?_, ?_, h.inOrder⟩
      · simp [Channel.close]
      · simp [Channel.close]

/-- A delivery goes on over every run, by induction on its steps. -/
theorem delivers_run (capacity : Nat) (steps : List Step)
    : ∃ c, Delivers capacity steps ((start capacity).run steps) c := by
  induction steps using List.reverseRecOn with
  | nil => exact ⟨_, delivers_start capacity⟩
  | append_singleton steps step ih =>
      obtain ⟨c, delivers⟩ := ih
      rw [run_append]
      exact delivers.after step

/-- Deliveries that differ at most in what their publishers refused. -/
structure Alike (d d' : Delivery) : Prop where
  outlet : d.publisher.outlet = d'.publisher.outlet
  received : d.received = d'.received
  taken : Publication.taken d.publisher.log = Publication.taken d'.publisher.log

variable {d' : Delivery}

/-- Every step does the same to both deliveries, since it only asks the outlet. -/
theorem Alike.after (h : d.Alike d') (step : Step) : (d.after step).Alike (d'.after step) := by
  obtain ⟨⟨outlet, log⟩, received⟩ := d
  obtain ⟨⟨outlet', log'⟩, received'⟩ := d'
  obtain ⟨rfl, rfl, taken⟩ := h
  cases step with
  | publish e =>
      refine ⟨rfl, rfl, ?_⟩
      simp only [Publication.taken] at taken
      simp [Delivery.after, Publisher.publish, Publication.taken, taken]
  | receive => exact ⟨rfl, rfl, taken⟩
  | drop => exact ⟨rfl, rfl, taken⟩

/-- Both deliveries go on alike over every run, by induction on its steps. -/
theorem Alike.run (h : d.Alike d') (steps : List Step) : (d.run steps).Alike (d'.run steps) := by
  induction steps generalizing d d' with
  | nil => exact h
  | cons step rest ih => exact ih (h.after step)

/-- Both deliveries answer alike over every run, by induction on its steps. -/
theorem Alike.answers (h : d.Alike d') (steps : List Step)
    : d.answers steps = d'.answers steps := by
  induction steps generalizing d d' with
  | nil => rfl
  | cons step rest ih =>
      have later := ih (h.after step)
      cases step with
      | publish e =>
          have answer : d.publisher.refusal? e = d'.publisher.refusal? e := by
            rw [Publisher.refusal?, Publisher.refusal?, h.outlet]
          simp only [Delivery.answers, later, answer]
      | receive => exact later
      | drop => exact later

/-- An event that is refused might as well not have been published. -/
theorem Delivers.refused_alike (h : Delivers capacity steps d c) {e : Event}
    (refused : d.publisher.refusal? e ≠ none)
    : (d.after (.publish e)).Alike d := by
  obtain ⟨refusal, because⟩ := Option.ne_none_iff_exists'.1 refused
  have answer := (Publisher.refusal?_eq_some h.outlet).1 because
  obtain ⟨outlet, taken⟩ := Publisher.publish_refused h.outlet answer
  exact ⟨outlet.trans h.outlet.symm, rfl, taken⟩

/-- Whatever capacity is asked for and whatever steps are made: all published events are
answered in order, no more are queued than there is room for, and those that were not refused are
received in the order in which they were published; as long as the receiver is there, the ones
that were not received yet are exactly the queued ones. A further event is refused as full
exactly if the receiver is there and the queue is at its capacity, and as closed exactly if the
receiver was dropped; whatever comes later then, it is as if the refused event had not been
published.
-/
theorem lossless_while_taken (capacity : Nat) (steps : List Step)
    : let d := (start capacity).run steps
      let answers := (start capacity).answers steps
      ∃ c, d.publisher.outlet = .channel c
        ∧ d.publisher.log = answers
        ∧ answers.map Publication.event = published steps
        ∧ c.queue.length ≤ max capacity 1
        ∧ (.drop ∉ steps → d.received ++ c.queue = Publication.taken answers)
        ∧ d.received <+: Publication.taken answers
        ∧ ∀ e,
          (d.publisher.refusal? e = some .full
            ↔ .drop ∉ steps ∧ c.queue.length = max capacity 1)
          ∧ (d.publisher.refusal? e = some .closed ↔ .drop ∈ steps)
          ∧ (d.publisher.refusal? e ≠ none
            → ∀ later,
              ((d.after (.publish e)).run later).Alike (d.run later)
              ∧ (d.after (.publish e)).answers later = d.answers later) := by
  intro d answers
  obtain ⟨c, delivers⟩ := delivers_run capacity steps
  have logged : d.publisher.log = answers := (start capacity).log_run steps
  have bounded : c.queue.length ≤ max capacity 1 := delivers.capacity ▸ delivers.bounded
  refine ⟨c, delivers.outlet, logged, answers_events _ steps, bounded, fun there => ?_, ?_,
    fun e => ⟨?_, ?_, ?_⟩⟩
  · rw [← logged]
    exact delivers.conserved (delivers.isOpen.2 there)
  · rw [← logged]
    exact delivers.inOrder
  · rw [Publisher.refusal?_eq_some delivers.outlet, Channel.send_eq_full, delivers.isOpen,
      delivers.capacity]
    refine and_congr_right fun _ => ⟨fun full => ?_, fun full => ?_⟩
    · exact Nat.le_antisymm bounded full
    · exact Nat.le_of_eq full.symm
  · rw [Publisher.refusal?_eq_some delivers.outlet, Channel.send_eq_closed,
      ← Bool.not_eq_true, delivers.isOpen, not_not]
  · intro refused later
    have alike := delivers.refused_alike refused
    exact ⟨alike.run later, alike.answers later⟩

end Delivery

end DebtMarket
