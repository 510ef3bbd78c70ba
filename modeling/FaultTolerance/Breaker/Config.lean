import FaultTolerance.Interval
import FaultTolerance.Validation
import FaultTolerance.Window.Basic

/-!
What a circuit breaker is told: its thresholds, its window, its waits and how it classifies
outcomes. `Config.validate` names the first field that makes no sense.
-/

namespace FaultTolerance.Breaker

/-- `ε` is the type of reported errors and `ν` the type of returned values. -/
structure Config (ε ν : Type) where
  /-- The failure percentage from which on the breaker opens. -/
  failureRateThreshold : Float32 := 50.0
  /-- The percentage of slow calls from which on the breaker opens. -/
  slowCallRateThreshold : Float32 := 100.0
  /-- Calls that take at least this long are slow. -/
  slowCallDuration : Duration := .ofSeconds 60
  windowKind : WindowKind := .countBased
  /-- The number of calls or of seconds that the window spans. -/
  windowSize : Nat := 100
  /-- Calls that the rates need before they count. -/
  minimumCalls : Nat := 100
  permittedProbes : Nat := 10
  /-- The half-open state ends after this long; zero lets it last. -/
  maxHalfOpenWait : Duration := .zero
  /-- The open wait after so many open periods in a row. -/
  openWait : Interval := .fixed (.ofSeconds 60)
  /-- Errors that count as failures; without it every error does. -/
  recordError : Option (ε → Bool) := none
  /-- Errors that count as nothing; asked before `recordError`. -/
  ignoreError : Option (ε → Bool) := none
  /-- Returned values that count as failures. -/
  recordResult : Option (ν → Bool) := none

instance {ε ν : Type} : Inhabited (Config ε ν) := ⟨{}⟩

namespace Config

variable {ε ν : Type}

/-- The first open wait is asked for as well, at the draw that is next then. -/
def validate (c : Config ε ν) (draw : Float := Draws.middle.next) : Except Error Unit := do
  checkRate "failure_rate_threshold" c.failureRateThreshold
  checkRate "slow_call_rate_threshold" c.slowCallRateThreshold
  require (c.slowCallDuration.nanos != 0) "slow_call_duration_threshold must be greater than zero"
  require (c.windowSize != 0) "sliding_window_size must be greater than 0"
  require (c.minimumCalls != 0) "minimum_number_of_calls must be greater than 0"
  require (c.permittedProbes != 0)
    "permitted_number_of_calls_in_half_open_state must be greater than 0"
  require ((c.openWait.wait 1 draw).nanos != 0)
    "wait_duration_in_open_state must be greater than zero"

/-- The calls that the rates need. A window by number never holds more than its size. -/
def effectiveMinimum (c : Config ε ν) : Nat :=
  match c.windowKind with
  | .countBased => min c.minimumCalls c.windowSize
  | .timeBased => c.minimumCalls

def isIgnored (c : Config ε ν) (e : ε) : Bool := c.ignoreError.any (· e)

def isRecordedFailure (c : Config ε ν) (e : ε) : Bool := c.recordError.all (· e)

def isFailedResult (c : Config ε ν) (v : ν) : Bool := c.recordResult.any (· v)

def describe (c : Config ε ν) : String :=
  Text.record "CircuitBreakerConfig"
    [("failure_rate_threshold", Text.single c.failureRateThreshold),
      ("slow_call_rate_threshold", Text.single c.slowCallRateThreshold),
      ("slow_call_duration_threshold", Text.duration c.slowCallDuration),
      ("sliding_window_type", c.windowKind.describe),
      ("sliding_window_size", toString c.windowSize),
      ("minimum_number_of_calls", toString c.minimumCalls),
      ("permitted_number_of_calls_in_half_open_state", toString c.permittedProbes),
      ("max_wait_duration_in_half_open_state", Text.duration c.maxHalfOpenWait),
      ("wait_duration_in_open_state", c.openWait.describe),
      ("record_error", Text.boolean c.recordError.isSome),
      ("ignore_error", Text.boolean c.ignoreError.isSome),
      ("record_result", Text.boolean c.recordResult.isSome)]

end Config

end FaultTolerance.Breaker
