import FaultTolerance.Breaker.Config
import FaultTolerance.Breaker.Event

/-!
A circuit breaker over the failure rate and the slow-call rate of a sliding window.

All that changes between two transitions lies in one cell. A transition builds a new cell, one
generation later and with a fresh window; only an open cell keeps the window that tripped the
breaker. There is no timer: a deadline is looked at when the next call asks for admission or the
next outcome comes in. Every operation answers the new breaker and the events that it reports, in
their order; the clock reading is an argument. The draws for its open waits come with a breaker
when it is made, and each open period uses one.
-/

namespace FaultTolerance

/-- What a breaker holds during one generation. -/
structure Breaker.Cell where
  state : Breaker.State
  generation : Nat
  window : Window
  enteredAt : Nat
  /-- The end of the open wait; zero in the other states. -/
  openUntil : Nat
  /-- Open periods in a row. -/
  attempts : Nat
  /-- Probes that may still be taken. -/
  probes : Nat
  /-- Whether the last recorded call left a rate at its threshold. -/
  rateExceeded : Bool := false

structure Breaker (ε ν : Type) where
  name : String
  config : Breaker.Config ε ν
  cell : Breaker.Cell
  /-- The draws for the open waits that are still to come. -/
  draws : Draws := .middle
  /-- Calls refused since the breaker was made. -/
  rejected : Nat := 0

namespace Breaker

variable {ε ν : Type}

/-- The greatest count of open periods in a row. -/
def attemptLimit : Nat := 0xFFFFFFFF

/-- A cell for a state that is entered now. It takes over a window or starts with an empty one. An
open wait is measured out by the draw. -/
def Cell.enter (config : Config ε ν) (now : Nat) (state : State) (generation attempts : Nat)
    (reserveProbe : Bool) (inherited : Option Window) (draw : Float) : Except Error Cell := do
  let window ← match inherited with
    | some window => pure window
    | none =>
      if state = .halfOpen then Window.countBased config.permittedProbes config.permittedProbes
      else Window.ofKind config.windowKind config.windowSize config.effectiveMinimum now
  return {
    state, generation, window, attempts
    enteredAt := now
    openUntil :=
      if state = .opened then addTicks now (config.openWait.wait attempts draw).ticks else 0
    probes := if reserveProbe then config.permittedProbes - 1 else config.permittedProbes }

/-- A closed breaker. The first draw goes into the check of its configuration. -/
def new (name : String) (config : Config ε ν) (now : Nat) (draws : Draws := .middle) :
    Except Error (Breaker ε ν) := do
  config.validate draws.next
  let cell ← Cell.enter config now .closed 0 0 false none (draws.drop 1).next
  return { name, config, cell, draws := draws.drop 1 }

def state (b : Breaker ε ν) : State := b.cell.state

/-! ### Transitions -/

def exceedsThresholds (b : Breaker ε ν) (s : Snapshot) : Bool :=
  s.failureRate >= b.config.failureRateThreshold ||
    s.slowCallRate >= b.config.slowCallRateThreshold

/-- One event for each rate that reaches its threshold. -/
def ratesExceeded (b : Breaker ε ν) (s : Snapshot) : List Event :=
  (if s.failureRate >= b.config.failureRateThreshold then
    [.failureRateExceeded s.failureRate] else []) ++
  (if s.slowCallRate >= b.config.slowCallRateThreshold then
    [.slowCallRateExceeded s.slowCallRate] else [])

/-- The number of open periods in a row after a move to a state. -/
def attemptsAfter (attempts : Nat) : State → Nat
  | .opened => min (attempts + 1) attemptLimit
  | .halfOpen => attempts
  | _ => 0

/-- The draws that are left after a move to a state. Only an open wait uses one. -/
def drawsAfter (draws : Draws) : State → Draws
  | .opened => draws.drop 1
  | _ => draws

/-- Applies a trigger. A breach is the view that reached a threshold and is reported first.
Nothing happens when the trigger does not apply. -/
def move (b : Breaker ε ν) (now : Nat) (trigger : Trigger) (breach : Option Snapshot := none) :
    Option (Breaker ε ν × List Event) := do
  let target ← transition b.state trigger
  let inherited := if target = .opened then some b.cell.window else none
  let cell ← (Cell.enter b.config now target (b.cell.generation + 1)
    (attemptsAfter b.cell.attempts target) (trigger = .openWaitElapsed) inherited
    b.draws.next).toOption
  let breached := (breach.map b.ratesExceeded).getD []
  let change := if b.state = target then [] else [.stateTransition b.state target]
  return ({ b with cell, draws := drawsAfter b.draws target }, breached ++ change)

/-- Applies a trigger if it applies. -/
def moveIf (b : Breaker ε ν) (now : Nat) (trigger : Trigger) (breach : Option Snapshot := none) :
    Breaker ε ν × List Event :=
  (b.move now trigger breach).getD (b, [])

/-- Moves to a state on request. -/
def force (b : Breaker ε ν) (now : Nat) (target : State) : Breaker ε ν × List Event :=
  b.moveIf now (.force target)

/-- Goes back to a closed state with an empty window. -/
def reset (b : Breaker ε ν) (now : Nat) : Breaker ε ν × List Event :=
  let (b, events) := b.moveIf now .reset
  (b, events ++ [.reset])

/-! ### Admission -/

/-- Whether the half-open state has lasted its longest wait. -/
def halfOpenExpired (b : Breaker ε ν) (now : Nat) : Bool :=
  b.config.maxHalfOpenWait.nanos != 0 &&
    b.config.maxHalfOpenWait.ticks ≤ now - b.cell.enteredAt

/-- Counts and reports a refused call. -/
def refuse (b : Breaker ε ν) : Breaker ε ν × List Event :=
  ({ b with rejected := b.rejected + 1 }, [.callNotPermitted])

/-- Takes a probe if there is one left. -/
def takeProbe (b : Breaker ε ν) : Breaker ε ν × List Event × Bool :=
  if 0 < b.cell.probes then
    ({ b with cell := { b.cell with probes := b.cell.probes - 1 } }, [], true)
  else
    let (b, events) := b.refuse
    (b, events, false)

/-- What one look at the state leads to. -/
inductive Round (ε ν : Type) where
  | decided (b : Breaker ε ν) (events : List Event) (admitted : Bool)
  /-- The state has changed and has to be looked at again. -/
  | again (b : Breaker ε ν) (events : List Event)

/-- One look at the state of a breaker that is asked for admission. -/
def round (b : Breaker ε ν) (now : Nat) : Round ε ν :=
  match b.state with
  | .closed | .disabled | .metricsOnly => .decided b [] true
  | .forcedOpen =>
    let (b, events) := b.refuse
    .decided b events false
  | .opened =>
    if now < b.cell.openUntil then
      let (b, events) := b.refuse
      .decided b events false
    else
      match b.move now .openWaitElapsed with
      | some (b, events) => .decided b events true
      | none =>
        let (b, events) := b.refuse
        .decided b events false
  | .halfOpen =>
    match if b.halfOpenExpired now then b.move now .halfOpenWaitElapsed else none with
    | some (b, events) => .again b events
    | none =>
      let (b, events, admitted) := b.takeProbe
      .decided b events admitted

/-- Looks again until the matter is decided, at most `rounds` times. -/
def admitWithin (now : Nat) : (rounds : Nat) → Breaker ε ν → Breaker ε ν × List Event × Bool
  | 0, b =>
    let (b, events) := b.refuse
    (b, events, false)
  | rounds + 1, b =>
    match b.round now with
    | .decided b events admitted => (b, events, admitted)
    | .again b events =>
      let (b, later, admitted) := admitWithin now rounds b
      (b, events ++ later, admitted)

/-- Decides whether a call may run. While half-open an admitted call holds a probe. -/
def tryAcquire (b : Breaker ε ν) (now : Nat) : Breaker ε ν × List Event × Bool :=
  admitWithin now 3 b

/-- The error of a refused call, by the state that the breaker is in now. -/
def refusal (b : Breaker ε ν) : Error := .callNotPermitted b.name b.state.text

/-- Gives back the probe of a call that did not run. -/
def release (b : Breaker ε ν) : Breaker ε ν :=
  if b.state = .halfOpen && b.cell.probes < b.config.permittedProbes then
    { b with cell := { b.cell with probes := b.cell.probes + 1 } }
  else b

/-! ### Outcomes -/

/-- Records a call that was classified and reported as an event, and moves on if it decides
something. -/
def record (b : Breaker ε ν) (now : Nat) (elapsed : Duration) (failed : Bool) (event : Event) :
    Breaker ε ν × List Event :=
  if !b.state.recordsOutcomes then (b, [])
  else
    let slow := b.config.slowCallDuration.nanos ≤ elapsed.nanos
    let window := b.cell.window.record now ⟨.classify failed slow, elapsed⟩
    let b := { b with cell := { b.cell with window } }
    let view := window.view
    let exceeded := b.exceedsThresholds view
    let (b, events) :=
      match b.state with
      | .closed => if exceeded then b.moveIf now .thresholdsExceeded view else (b, [])
      | .halfOpen =>
        if b.halfOpenExpired now then b.moveIf now .halfOpenWaitElapsed
        else if b.config.permittedProbes ≤ view.totals.calls then
          if exceeded then b.moveIf now .probesFailed view else b.moveIf now .probesPassed
        else (b, [])
      | .metricsOnly =>
        ({ b with cell := { b.cell with rateExceeded := exceeded } },
          if exceeded && !b.cell.rateExceeded then b.ratesExceeded view else [])
      | .opened | .forcedOpen | .disabled => (b, [])
    (b, event :: events)

def onSuccess (b : Breaker ε ν) (now : Nat) (elapsed : Duration) : Breaker ε ν × List Event :=
  b.record now elapsed false (.success elapsed)

/-- Reports a call that ended with an error. An ignored error gives its probe back. -/
def onError [Fault ε] (b : Breaker ε ν) (now : Nat) (elapsed : Duration) (e : ε) :
    Breaker ε ν × List Event :=
  if b.config.isIgnored e then (b.release, [.ignoredError elapsed (Fault.text e)])
  else if b.config.isRecordedFailure e then
    b.record now elapsed true (.error elapsed (Fault.text e))
  else b.onSuccess now elapsed

/-- Reports a call that returned a value, which may still count as a failure. -/
def onResult (b : Breaker ε ν) (now : Nat) (elapsed : Duration) (v : ν) :
    Breaker ε ν × List Event :=
  if b.config.isFailedResult v then
    b.record now elapsed true (.error elapsed "result recorded as failure")
  else b.onSuccess now elapsed

def onOutcome [Fault ε] (b : Breaker ε ν) (now : Nat) (elapsed : Duration) :
    Except ε ν → Breaker ε ν × List Event
  | .ok v => b.onResult now elapsed v
  | .error e => b.onError now elapsed e

/-! ### Views -/

/-- A breaker as it is seen from outside. -/
structure Metrics where
  state : State
  generation : Nat
  snapshot : Snapshot
  rejected : Nat
  /-- Probes that may still be taken, zero unless half-open. -/
  remainingProbes : Nat
  deriving DecidableEq, Repr

def metrics (b : Breaker ε ν) : Metrics :=
  { state := b.state
    generation := b.cell.generation
    snapshot := b.cell.window.view
    rejected := b.rejected
    remainingProbes := if b.state = .halfOpen then b.cell.probes else 0 }

/-- Lets the window drop what is no longer recent, as every look at the metrics does. -/
def refresh (b : Breaker ε ν) (now : Nat) : Breaker ε ν :=
  { b with cell := { b.cell with window := b.cell.window.refresh now } }

def describe (b : Breaker ε ν) : String :=
  Text.record "CircuitBreaker"
    [("name", Text.quoted b.name), ("state", b.state.describe),
      ("generation", toString b.cell.generation)]

end Breaker

end FaultTolerance
