import DebtMarket.Channel
import DebtMarket.Event

/-! Publishers. A publisher either takes every event, or hands events to a channel that
may refuse them. What was published is logged in order, with the refusal if there was one.
-/

namespace DebtMarket

/-- Where events go. -/
inductive Outlet where
  /-- Every event is taken. -/
  | unbounded
  /-- Events go into a channel. -/
  | channel (queue : Channel Event)
deriving DecidableEq, Repr

namespace Outlet

/-- The outlet after it was handed an event, and why it refused it if it did. -/
def publish (o : Outlet) (e : Event) : Option Refusal × Outlet :=
  match o with
  | unbounded => (none, unbounded)
  | channel queue =>
      match queue.send e with
      | .ok queue => (none, channel queue)
      | .error refusal => (some refusal, channel queue)

/-- The next event of the channel. -/
def receive (o : Outlet) : Option Event × Outlet :=
  match o with
  | unbounded => (none, unbounded)
  | channel queue => let (e, queue) := queue.receive; (e, channel queue)

/-- The outlet with its receiving end closed, and whether there was an open one. -/
def close (o : Outlet) : Bool × Outlet :=
  match o with
  | unbounded => (false, unbounded)
  | channel queue => (queue.isOpen, channel queue.close)

end Outlet

/-- An event as it was handed to the outlet. -/
structure Publication where
  event : Event
  refusal : Option Refusal
deriving DecidableEq, Repr

/-- An outlet with the log of all that was handed to it. -/
structure Publisher where
  outlet : Outlet
  log : List Publication
deriving DecidableEq, Repr

namespace Publisher

/-- A publisher with an empty log. -/
def start (outlet : Outlet) : Publisher :=
  { outlet, log := [] }

/-- The publisher after an event. -/
def publish (p : Publisher) (e : Event) : Publisher :=
  let (refusal, outlet) := p.outlet.publish e
  { outlet, log := p.log ++ [⟨e, refusal⟩] }

/-- The next event of the channel. -/
def receive (p : Publisher) : Option Event × Publisher :=
  let (e, outlet) := p.outlet.receive
  (e, { p with outlet })

/-- The publisher with its receiving end closed, and whether there was an open one. -/
def close (p : Publisher) : Bool × Publisher :=
  let (wasOpen, outlet) := p.outlet.close
  (wasOpen, { p with outlet })

end Publisher

end DebtMarket
