import FaultTolerance.Validation
import FaultTolerance.Window.Basic
import FaultTolerance.Bulkhead

/-!
What an adaptive bulkhead is told, and what it reports.
-/

namespace FaultTolerance.Adaptive

/-- `ε` is the type of reported errors. -/
structure Config (ε : Type) where
  minConcurrentCalls : Nat := 2
  initialConcurrentCalls : Nat := 2
  maxConcurrentCalls : Nat := 25
  maxWait : Duration := .zero
  failureRateThreshold : Float32 := 50.0
  slowCallRateThreshold : Float32 := 50.0
  slowCallDuration : Duration := .ofSeconds 5
  windowKind : WindowKind := .countBased
  windowSize : Nat := 100
  minimumCalls : Nat := 100
  /-- The step up once a breach was seen. -/
  increaseStep : Nat := 1
  /-- The factor up before a breach was seen. -/
  increaseFactor : Float32 := 2.0
  /-- The factor down on a breach. -/
  decreaseFactor : Float32 := 0.5
  /-- The least time between two evaluations. -/
  adjustmentInterval : Duration := .ofSeconds 1
  /-- The weight of the newest sample in the latency average. -/
  latencySmoothing : Float := 0.2
  /-- Errors that count as failures; without it every error does. -/
  recordError : Option (ε → Bool) := none
  /-- Errors that count as nothing. -/
  ignoreError : Option (ε → Bool) := none

instance {ε : Type} : Inhabited (Config ε) := ⟨{}⟩

namespace Config

variable {ε : Type}

def validate (c : Config ε) : Except Error Unit := do
  require (c.minConcurrentCalls != 0) "min_concurrent_calls must be greater than 0"
  require (c.minConcurrentCalls ≤ c.initialConcurrentCalls &&
      c.initialConcurrentCalls ≤ c.maxConcurrentCalls)
    "concurrent calls must satisfy min <= initial <= max"
  checkRate "failure_rate_threshold" c.failureRateThreshold
  checkRate "slow_call_rate_threshold" c.slowCallRateThreshold
  require (c.windowSize != 0 && c.minimumCalls != 0)
    "sliding window size and minimum number of calls must be greater than 0"
  require (c.increaseStep != 0) "increase_augend must be greater than 0"
  require (c.increaseFactor >= 1.0) "increase_multiplier must be >= 1"
  require (c.decreaseFactor > 0.0 && c.decreaseFactor < 1.0)
    "decrease_multiplier must be in (0, 1)"
  require (c.latencySmoothing > 0.0 && c.latencySmoothing <= 1.0)
    "latency_smoothing must be in (0, 1]"

/-- The calls that the rates need. -/
def effectiveMinimum (c : Config ε) : Nat :=
  match c.windowKind with
  | .countBased => min c.minimumCalls c.windowSize
  | .timeBased => c.minimumCalls

def isIgnored (c : Config ε) (e : ε) : Bool := c.ignoreError.any (· e)

def isRecordedFailure (c : Config ε) (e : ε) : Bool := c.recordError.all (· e)

def describe (c : Config ε) : String :=
  Text.openRecord "AdaptiveBulkheadConfig"
    [("min_concurrent_calls", toString c.minConcurrentCalls),
      ("initial_concurrent_calls", toString c.initialConcurrentCalls),
      ("max_concurrent_calls", toString c.maxConcurrentCalls),
      ("max_wait_duration", Text.duration c.maxWait),
      ("failure_rate_threshold", Text.single c.failureRateThreshold),
      ("slow_call_rate_threshold", Text.single c.slowCallRateThreshold),
      ("slow_call_duration_threshold", Text.duration c.slowCallDuration),
      ("sliding_window_size", toString c.windowSize),
      ("adjustment_interval", Text.duration c.adjustmentInterval)]

end Config

inductive Phase where
  /-- No breach yet: the limit is multiplied. -/
  | slowStart
  /-- After a breach: the limit grows step by step. -/
  | congestionAvoidance
  deriving DecidableEq, Repr, Inhabited

def Phase.describe : Phase → String
  | slowStart => "SlowStart"
  | congestionAvoidance => "CongestionAvoidance"

inductive Event where
  | success (elapsed : Duration)
  | error (elapsed : Duration) (text : String)
  | ignoredError (elapsed : Duration) (text : String)
  | limitChanged (before after : Nat)
  deriving DecidableEq, Repr

namespace Event

def kind : Event → String
  | success .. => "SUCCESS"
  | error .. => "ERROR"
  | ignoredError .. => "IGNORED_ERROR"
  | limitChanged .. => "LIMIT_CHANGED"

def describe : Event → String
  | success elapsed => Text.record "Success" [("elapsed", Text.duration elapsed)]
  | error elapsed text =>
    Text.record "Error" [("elapsed", Text.duration elapsed), ("error", Text.quoted text)]
  | ignoredError elapsed text =>
    Text.record "IgnoredError" [("elapsed", Text.duration elapsed), ("error", Text.quoted text)]
  | limitChanged before after =>
    Text.record "LimitChanged" [("old", toString before), ("new", toString after)]

end Event

instance : Reported Event := ⟨Event.kind, Event.describe⟩

/-- A report of the adaptive bulkhead itself or of the bulkhead that holds its permits. -/
inductive Notice where
  | own (e : Event)
  | permits (e : Bulkhead.Event)
  deriving DecidableEq, Repr

end FaultTolerance.Adaptive
