import FaultTolerance.Stack.Action
import FaultTolerance.Stack.Suspended

/-!
Calls that are under way at the same time, by number.

Besides whole calls a session has callers that only wait to be let into one layer. Each goes on
when it is polled; dropping it gives back what it holds. Two kinds of call are made by hand, step by
step: one that has a permit of a bulkhead until it gives it back, and one that tells a retry how
each of its attempts went.
-/

namespace FaultTolerance.Stack

/-- Something that is suspended. -/
inductive Running (ε ν : Type) where
  | call (operation : Nat → Run ε ν) (path : List Nat) (s : Suspended ε ν)
  /-- A caller that waits to be let into a layer. -/
  | entering (layer : Nat) (wait : Wait)

/-- What a poll answers. -/
inductive Answer (ε ν : Type) where
  | finished (e : Ending ε ν)
  | entered
  | refused (e : Error)
  | pending
  /-- Nothing of this number is under way. -/
  | unknown

structure Session (ε ν : Type) where
  world : World ε ν
  running : List (Nat × Running ε ν) := []
  /-- The callers that have a permit of the first layer. -/
  held : List Nat := []
  /-- The attempts so far of the callers that report to the first layer. -/
  attempts : List (Nat × Nat) := []

namespace Session

variable {ε ν : Type}

/-- Lets go of a number. -/
def forget (s : Session ε ν) (id : Nat) : Session ε ν :=
  { s with running := s.running.filter (·.1 ≠ id) }

/-- Goes on with what is under way, or lets go of it when it is over. -/
def settle (s : Session ε ν) (id : Nat) (world : World ε ν) (next : Answer ε ν ⊕ Running ε ν) :
    Session ε ν × Answer ε ν :=
  let s := { s.forget id with world }
  match next with
  | .inl answer => (s, answer)
  | .inr r => ({ s with running := (id, r) :: s.running }, .pending)

/-- The progress of a call. -/
def ofProgress (operation : Nat → Run ε ν) (path : List Nat) :
    Progress ε ν → Answer ε ν ⊕ Running ε ν
  | .inl e => .inl (.finished e)
  | .inr s => .inr (.call operation path s)

/-- What a layer says to a caller at its door. -/
def ofEntry (layer : Nat) : Entry → Answer ε ν ⊕ Running ε ν
  | .admitted _ => .inl .entered
  | .refused e => .inl (.refused e)
  | .waiting wait => .inr (.entering layer wait)

/-- Drops what is under way and answers whether there was anything. -/
def drop (s : Session ε ν) (id : Nat) : Session ε ν × Bool :=
  match s.running.lookup id with
  | none => (s, false)
  | some (.call _ path suspended) =>
    ({ s.forget id with world := s.world.drop path suspended }, true)
  | some (.entering layer wait) =>
    ({ s.forget id with world := s.world.cancel layer wait }, true)

variable [Timer] [Fault ε]

/-- Starts a call. What was under way by this number is dropped for it. -/
def start (s : Session ε ν) (id : Nat) (operation : Nat → Run ε ν) (path : List Nat) :
    Session ε ν × Answer ε ν :=
  let s := (s.drop id).1
  let (w, p) := s.world.start operation path
  s.settle id w (ofProgress operation path p)

omit [Fault ε] in
/-- Starts a caller that has been at the door of a layer. -/
def startEntering (s : Session ε ν) (id layer : Nat) (entry : World ε ν × Entry) :
    Session ε ν × Answer ε ν :=
  s.settle id entry.1 (ofEntry layer entry.2)

def poll (s : Session ε ν) (id : Nat) : Session ε ν × Answer ε ν :=
  match s.running.lookup id with
  | none => (s, .unknown)
  | some (.call operation path suspended) =>
    let (w, p) := s.world.poll operation path suspended
    s.settle id w (ofProgress operation path p)
  | some (.entering layer wait) =>
    let (w, entry) := s.world.resumeAt layer s.world.timer wait
    s.settle id w (ofEntry layer entry)

/-! ### Calls by hand -/

/-- A caller has been given a permit. One that it had before is given back. -/
def hold (s : Session ε ν) (id : Nat) : Session ε ν :=
  if id ∈ s.held then { s with world := (s.world.act 0 .complete).1 }
  else { s with held := id :: s.held }

/-- Gives the permit of a caller back and answers whether it had one. -/
def giveBack (s : Session ε ν) (id : Nat) : Session ε ν × Bool :=
  if id ∈ s.held then
    ({ s with world := (s.world.act 0 .complete).1, held := s.held.filter (· ≠ id) }, true)
  else (s, false)

omit [Fault ε] in
/-- The number of attempts that a caller has made. -/
def setAttempts (s : Session ε ν) (id count : Nat) : Session ε ν :=
  { s with attempts := (id, count) :: s.attempts.filter (·.1 ≠ id) }

/-- A caller that has begun tells how one more attempt went. The reply comes with the number of
attempts. -/
def attempt (s : Session ε ν) (id : Nat) (outcome : Except ε ν) :
    Session ε ν × Option (Reply × Nat) :=
  match s.attempts.lookup id with
  | none => (s, none)
  | some n =>
    let (world, reply) := s.world.act 0 (.attempt (n + 1) outcome)
    ({ s with world }.setAttempts id (n + 1), some (reply, n + 1))

end Session

namespace World

variable {ε ν : Type} [Timer]

/-- Asks a limiter for several permissions. Other layers let everything pass. -/
def reserve (w : World ε ν) (i permits : Nat) : World ε ν × Entry :=
  match w.layers[i]? with
  | some (.limiter l) =>
    let (l, events, answer) := l.start w.now w.timer permits
    (w.put i (.limiter l) (events.map .limiter), Layer.ofReservation l answer)
  | _ => (w, .admitted .nothing)

/-- Stays at the door of a layer, until the deadline of the wait at most. -/
def awaitEntry (i : Nat) : World ε ν × Entry → World ε ν × Except Error Unit
  | (w, .admitted _) => (w, .ok ())
  | (w, .refused e) => (w, .error e)
  | (w, .waiting wait) =>
    let timer := max w.timer (wait.due.getD w.timer)
    match { w with timer }.resumeAt i timer wait with
    | (w, .admitted _) => (w, .ok ())
    | (w, .refused e) => (w, .error e)
    | (w, .waiting _) =>
      (w, .error ((w.layers[i]?.map Layer.refusal).getD .concurrentModification))

/-- Every layer lets go of what is no longer recent. -/
def refresh (w : World ε ν) : World ε ν :=
  { w with layers := w.layers.map (Layer.refresh w.now) }

/-- The reports in the trace. -/
def reports (w : World ε ν) : List Report :=
  w.trace.filterMap fun
    | .reported _ r => some r
    | .ran _ => none

end World

end FaultTolerance.Stack
