import FaultTolerance.Ring

/-!
Delivery of events to the consumers of one instance, with a log of the latest ones.

Publishing first writes the log, then takes the list of subscriptions as it stands and hands the
event to each that wants its kind, in the order of subscription. What a consumer does in return is
a `Reaction`: it may subscribe, unsubscribe, publish on its own, and it may panic. A panic unwinds
the stack (`Run`) until it is caught, which `deliver` does for each consumer on its own. A change of
the subscriptions takes effect from the next publishing on. Consumers that publish in return do so
to a bounded depth.
-/

namespace FaultTolerance

/-- Something that an instance reports, with the stable name of its kind. -/
class Reported (π : Type) where
  kind : π → String
  describe : π → String

/-- An event of a named instance. -/
structure Event (π : Type) where
  source : String
  payload : π
  deriving DecidableEq, Repr

def Event.kind {π : Type} [Reported π] (e : Event π) : String := Reported.kind e.payload

/-- The text of an event after its time. -/
def Event.describe {π : Type} [Reported π] (e : Event π) : String :=
  ": '" ++ e.source ++ "' " ++ Reported.describe e.payload

/-- What a consumer does with an event that it was handed. -/
inductive Reaction (π : Type) where
  | done
  | panic
  /-- Adds a consumer, then goes on with the identity that it was given. -/
  | subscribe (kind : Option String) (consumer : Event π → Reaction π)
      (next : Nat → Reaction π)
  | unsubscribe (id : Nat) (next : Reaction π)
  | publish (event : Event π) (next : Reaction π)

structure Subscription (π : Type) where
  id : Nat
  /-- The only kind of event that the consumer wants, if it wants only one. -/
  kind : Option String
  consumer : Event π → Reaction π

def Subscription.wants {π : Type} [Reported π] (s : Subscription π) (e : Event π) : Bool :=
  s.kind.all (· == e.kind)

/-- An event that reached a consumer. -/
structure Delivery (π : Type) where
  consumer : Nat
  event : Event π
  deriving DecidableEq, Repr

/-- How many events are kept when nothing else is said. -/
def defaultReplayCapacity : Nat := 100

structure Publisher (π : Type) where
  subscriptions : List (Subscription π) := []
  /-- The latest events; none are kept at capacity zero. -/
  replay : Option (Ring (Event π))
  nextId : Nat := 0

namespace Publisher

variable {π : Type}

def new (replayCapacity : Nat := defaultReplayCapacity) : Publisher π :=
  { replay := (Ring.ofCapacity replayCapacity).toOption }

def subscribe (p : Publisher π) (kind : Option String) (consumer : Event π → Reaction π) :
    Publisher π × Nat :=
  ({ p with
      subscriptions := p.subscriptions ++ [⟨p.nextId, kind, consumer⟩]
      nextId := p.nextId + 1 }, p.nextId)

/-- Removes a consumer; the answer says whether it was there. -/
def unsubscribe (p : Publisher π) (id : Nat) : Publisher π × Bool :=
  ({ p with subscriptions := p.subscriptions.filter (·.id ≠ id) },
    p.subscriptions.any (·.id = id))

def hasConsumers (p : Publisher π) : Bool := !p.subscriptions.isEmpty

/-- Writes an event to the log. -/
def note (p : Publisher π) (e : Event π) : Publisher π :=
  { p with replay := p.replay.map fun r => (r.insert e).1 }

/-- The latest events, oldest first. -/
def recent (p : Publisher π) : List (Event π) := (p.replay.map Ring.toList).getD []

/-- What a piece of code has made of a state, and whether a panic unwinds its stack. -/
structure Run (σ : Type) where
  state : σ
  unwinding : Bool := false

namespace Run
variable {σ : Type}

/-- Whatever comes next is passed over while a panic unwinds the stack. -/
def andThen (r : Run σ) (next : σ → Run σ) : Run σ := if r.unwinding then r else next r.state

/-- Stops a panic; what has been done until then stays done. -/
def caught (r : Run σ) : Run σ := { r with unwinding := false }

end Run

/-- A publisher, with what it has delivered in the meantime. -/
abbrev Heard (π : Type) := Publisher π × List (Delivery π)

end Publisher

/-- Carries a reaction out until it ends or panics. Publishing in return is left to `publish`. -/
def Reaction.perform {π : Type}
    (publish : Publisher.Heard π → Event π → Publisher.Run (Publisher.Heard π)) :
    Reaction π → Publisher.Heard π → Publisher.Run (Publisher.Heard π)
  | .done, s => { state := s }
  | .panic, s => { state := s, unwinding := true }
  | .subscribe kind consumer next, (p, heard) =>
    let (p, id) := p.subscribe kind consumer
    (next id).perform publish (p, heard)
  | .unsubscribe id next, (p, heard) => next.perform publish ((p.unsubscribe id).1, heard)
  | .publish event next, s => (publish s event).andThen (next.perform publish)

namespace Publisher

variable {π : Type} [Reported π]

/-- Hands an event to subscriptions one after the other. -/
def deliver (publish : Heard π → Event π → Run (Heard π)) (e : Event π) :
    List (Subscription π) → Heard π → Run (Heard π)
  | [], s => { state := s }
  | sub :: rest, (p, heard) =>
    ((sub.consumer e).perform publish (p, heard ++ [⟨sub.id, e⟩])).caught.andThen
      (deliver publish e rest)

/-- Publishes an event. Consumers may publish in return `depth` levels deep. -/
def publishing : (depth : Nat) → Heard π → Event π → Run (Heard π)
  | 0, (p, heard), e =>
    { state := (p.note e, heard ++ (p.subscriptions.filter (·.wants e)).map (⟨·.id, e⟩)) }
  | depth + 1, (p, heard), e =>
    deliver (publishing depth) e (p.subscriptions.filter (·.wants e)) (p.note e, heard)

/-- The publisher after an event was published, and all that it has delivered since. -/
def publish (depth : Nat) (p : Publisher π) (e : Event π) : Heard π :=
  (publishing depth (p, []) e).state

def describe (p : Publisher π) : String :=
  Text.record "EventPublisher"
    [("consumers", toString p.subscriptions.length),
      ("replay_capacity", Text.optional (p.replay.map (toString ·.capacity)))]

end Publisher

end FaultTolerance
