import FaultTolerance.Adaptive.Config

/-!
A bulkhead that tunes its own limit.

Finished calls feed a sliding window and a smoothed latency. Once the window means something, and
at most once per adjustment interval, the limit is evaluated: a breach multiplies it down, and
without a breach it is multiplied up at first and grows by steps after the first breach. The
result is kept between the least and the greatest limit, and the window starts anew. Running calls
keep their permits through every change.
-/

namespace FaultTolerance

structure Adaptive (ε : Type) where
  name : String
  config : Adaptive.Config ε
  /-- Holds the permits; its limit is the current limit. -/
  bulkhead : Bulkhead
  window : Window
  phase : Adaptive.Phase := .slowStart
  lastAdjustment : Nat
  /-- The smoothed latency in nanoseconds, once a call has finished. -/
  latency : Option Float := none

namespace Adaptive

variable {ε : Type}

def new (name : String) (config : Config ε) (now : Nat) : Except Error (Adaptive ε) := do
  config.validate
  let bulkhead ← Bulkhead.new name
    { maxConcurrentCalls := config.initialConcurrentCalls, maxWait := config.maxWait }
  let window ← Window.ofKind config.windowKind config.windowSize config.effectiveMinimum now
  return { name, config, bulkhead, window, lastAdjustment := now }

/-- The current limit. -/
def limit (a : Adaptive ε) : Nat := a.bulkhead.config.maxConcurrentCalls

def refusal (a : Adaptive ε) : Error := .bulkheadFull a.name a.limit

/-! ### The controller -/

/-- Moves the latency average towards a new sample. -/
def smooth (latency : Option Float) (elapsed : Duration) (weight : Float) : Float :=
  let sample := Float.ofNat elapsed.nanos
  match latency with
  | some previous => previous + weight * (sample - previous)
  | none => sample

open Float.Model in
/-- The least whole number that a number does not pass, cut to a word. Zero if it is below zero or
none. -/
def ceiling : UnpackedFloat → Nat
  | .finite .positive mantissa exponent _ =>
    let unit := 1 <<< (-exponent).toNat
    min (((mantissa <<< exponent.toNat) + (unit - 1)) / unit) lastTick
  | .infinity .positive => lastTick
  | _ => 0

/-- A limit times a factor in single precision, rounded up. -/
def scaled (limit : Nat) (factor : Float32) : Nat :=
  ceiling ((UInt64.ofNat limit).toFloat32 * factor).toModel.unpack

/-- The phase after an evaluation. -/
def Phase.after (phase : Phase) (breached : Bool) : Phase :=
  if breached then .congestionAvoidance else phase

/-- The limit that an evaluation asks for. -/
def propose (config : Config ε) (phase : Phase) (limit : Nat) (breached : Bool) : Nat :=
  let wanted :=
    if breached then scaled limit config.decreaseFactor
    else
      match phase with
      | .slowStart => scaled limit config.increaseFactor
      | .congestionAvoidance => min (limit + config.increaseStep) 0xFFFFFFFFFFFFFFFF
  max config.minConcurrentCalls (min wanted config.maxConcurrentCalls)

/-- Whether a rate or the latency has reached its threshold. -/
def breached (config : Config ε) (view : Snapshot) (latency : Float) : Bool :=
  view.failureRate >= config.failureRateThreshold ||
    view.slowCallRate >= config.slowCallRateThreshold ||
    latency >= Float.ofNat config.slowCallDuration.nanos

/-- Gives the bulkhead a new limit. The last answer is whether the counter could follow; if not the
limit stays. -/
def resize (a : Adaptive ε) (limit : Nat) : Adaptive ε × List Notice × Bool :=
  if limit = a.limit then (a, [], true)
  else
    match a.bulkhead.configure { maxConcurrentCalls := limit, maxWait := a.config.maxWait } with
    | .ok bulkhead => ({ a with bulkhead }, [.own (.limitChanged a.limit limit)], true)
    | .error (.invalid _) => (a, [], true)
    | .error .overflow => (a, [], false)

/-- Whether the adjustment interval has passed. -/
def isDue (a : Adaptive ε) (now : Nat) : Bool :=
  a.config.adjustmentInterval.ticks ≤ now - a.lastAdjustment

/-- Sets the limit by a meaningful view, and starts the window anew. -/
def evaluate (a : Adaptive ε) (now : Nat) (view : Snapshot) (latency : Float) :
    Adaptive ε × List Notice × Bool :=
  let breach := breached a.config view latency
  let limit := propose a.config a.phase a.limit breach
  { a with
    phase := a.phase.after breach
    lastAdjustment := now
    window := a.window.reset now }.resize limit

/-- Records a finished call and evaluates the limit if it is time. -/
def record (a : Adaptive ε) (now : Nat) (elapsed : Duration) (failed : Bool) :
    Adaptive ε × List Notice × Bool :=
  let slow := a.config.slowCallDuration.nanos ≤ elapsed.nanos
  let window := a.window.record now ⟨.classify failed slow, elapsed⟩
  let view := window.view
  let latency := smooth a.latency elapsed a.config.latencySmoothing
  let a := { a with window, latency := some latency }
  if a.isDue now && view.isMeaningful then a.evaluate now view latency else (a, [], true)

/-! ### Calls -/

def tryAcquire (a : Adaptive ε) : Adaptive ε × List Notice × Bool :=
  let (bulkhead, events, acquired) := a.bulkhead.tryAcquire
  ({ a with bulkhead }, events.map .permits, acquired)

/-- A caller that blocks its thread for a permit while nobody else acts, with the time that it
sleeps. -/
def acquire [Timer] (a : Adaptive ε) (timer : Nat) :
    Adaptive ε × List Notice × Bool × Duration :=
  let (bulkhead, events, acquired, slept) := a.bulkhead.acquire timer
  ({ a with bulkhead }, events.map .permits, acquired, slept)

/-- A caller that comes for a permit and may wait on the timer. -/
def start [Timer] (a : Adaptive ε) (timer : Nat) :
    Adaptive ε × List Notice × (Bool ⊕ Bulkhead.Waiter) :=
  let (bulkhead, events, answer) := a.bulkhead.start timer
  ({ a with bulkhead }, events.map .permits, answer)

/-- Looks whether a waiter can be served or has to give up. -/
def poll [Timer] (a : Adaptive ε) (timer : Nat) (w : Bulkhead.Waiter) :
    Adaptive ε × List Notice × (Bool ⊕ Bulkhead.Waiter) :=
  let (bulkhead, events, answer) := w.poll a.bulkhead timer
  ({ a with bulkhead }, events.map .permits, answer)

/-- Gives back the permit of a call that did not finish. -/
def release (a : Adaptive ε) : Adaptive ε := { a with bulkhead := a.bulkhead.release }

/-- Gives back the permit of a finished call. -/
def complete (a : Adaptive ε) : Adaptive ε × List Notice :=
  let (bulkhead, events) := a.bulkhead.complete
  ({ a with bulkhead }, events.map .permits)

/-- Finishes a call that is reported as an event and recorded. The last answer is whether a new
limit could be followed. -/
def finish (a : Adaptive ε) (now : Nat) (elapsed : Duration) (failed : Bool) (event : Event) :
    Adaptive ε × List Notice × Bool :=
  let (a, completed) := a.complete
  let (a, adjusted, settled) := a.record now elapsed failed
  (a, completed ++ .own event :: adjusted, settled)

def onSuccess (a : Adaptive ε) (now : Nat) (elapsed : Duration) :
    Adaptive ε × List Notice × Bool :=
  a.finish now elapsed false (.success elapsed)

def onError [Fault ε] (a : Adaptive ε) (now : Nat) (elapsed : Duration) (e : ε) :
    Adaptive ε × List Notice × Bool :=
  if a.config.isIgnored e then
    let (a, completed) := a.complete
    (a, completed ++ [.own (.ignoredError elapsed (Fault.text e))], true)
  else if a.config.isRecordedFailure e then
    a.finish now elapsed true (.error elapsed (Fault.text e))
  else a.onSuccess now elapsed

def onOutcome {ν : Type} [Fault ε] (a : Adaptive ε) (now : Nat) (elapsed : Duration) :
    Except ε ν → Adaptive ε × List Notice × Bool
  | .ok _ => a.onSuccess now elapsed
  | .error e => a.onError now elapsed e

/-! ### Views -/

structure Metrics where
  phase : Phase
  limit : Nat
  available : Nat
  latency : Option Duration
  snapshot : Snapshot
  deriving DecidableEq, Repr

def metrics (a : Adaptive ε) : Metrics :=
  { phase := a.phase
    limit := a.limit
    available := a.bulkhead.metrics.available
    latency := a.latency.map fun nanos => ⟨nanos.toUInt64.toNat⟩
    snapshot := a.window.view }

/-- Lets the window drop what is no longer recent, as every look at the metrics does. -/
def refresh (a : Adaptive ε) (now : Nat) : Adaptive ε :=
  { a with window := a.window.refresh now }

def describe (a : Adaptive ε) : String :=
  Text.record "AdaptiveBulkhead" [("name", Text.quoted a.name), ("limit", toString a.limit)]

end Adaptive

end FaultTolerance
