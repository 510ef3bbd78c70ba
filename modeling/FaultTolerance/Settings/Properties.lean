import FaultTolerance.Breaker.Basic
import FaultTolerance.Bulkhead
import FaultTolerance.Limiter.Basic
import FaultTolerance.Logging.Line
import FaultTolerance.Retry
import FaultTolerance.Settings.Fields
import FaultTolerance.Toml.Writer

/-!
The blocks of properties that a settings document consists of.

A block names some fields of a configuration and lays their values over another configuration, its
base. Each primitive has its own blocks; `Kind` says what loading needs to know about a primitive.
All times are in milliseconds.
-/

namespace FaultTolerance.Settings

/-- What loading needs to know about a primitive. `π` is the type of its blocks, `κ` of its
configurations and `τ` of its instances. -/
structure Kind (π κ τ : Type) where
  /-- The name of the section. -/
  heading : String
  /-- The shared configuration that a block builds on. -/
  base : π → Option String
  /-- The change that a block makes, if it agrees with itself. -/
  overlay : π → Except Error (κ → κ)
  validate : κ → Except Error Unit
  standard : κ
  /-- Makes an instance that begins at a reading of the clock. -/
  make : Nat → String → κ → Except Error τ
  /-- What the log says about a new instance. -/
  created : LogLine

/-- A pair of a document for a field that is set. -/
def pair? {α : Type} (key : String) (scalar : α → Toml.Scalar) (v : Option α) :
    List (String × Toml.Scalar) :=
  (v.map fun a => (key, scalar a)).toList

/-- Lays a value over a field. -/
def lay {α : Type} (v : Option α) (below : α) : α := v.getD below

/-- Lays a time over a field. -/
def layMillis (v : Option Nat) (below : Duration) : Duration := (v.map Duration.ofMillis).getD below

/-! ### Circuit breakers -/

def windowKindText : WindowKind → String
  | .countBased => "count_based"
  | .timeBased => "time_based"

def windowKindOfText? (s : String) : Option WindowKind :=
  [WindowKind.countBased, .timeBased].find? (windowKindText · = s)

structure BreakerBlock where
  base : Option String := none
  failureRateThreshold : Option Float32 := none
  slowCallRateThreshold : Option Float32 := none
  slowCallDuration : Option Nat := none
  windowKind : Option WindowKind := none
  windowSize : Option Nat := none
  minimumCalls : Option Nat := none
  permittedProbes : Option Nat := none
  maxHalfOpenWait : Option Nat := none
  /-- The open wait, or the first one if there is a multiplier. -/
  openWait : Option Nat := none
  multiplier : Option Float := none
  maxOpenWait : Option Nat := none
  deriving BEq, Inhabited

namespace BreakerBlock

def fieldNames : List String :=
  ["base_config", "failure_rate_threshold", "slow_call_rate_threshold",
    "slow_call_duration_threshold_ms", "sliding_window_type", "sliding_window_size",
    "minimum_number_of_calls", "permitted_number_of_calls_in_half_open_state",
    "max_wait_duration_in_half_open_state_ms", "wait_duration_in_open_state_ms",
    "exponential_backoff_multiplier", "exponential_max_wait_duration_in_open_state_ms"]

def ofValue (v : Toml.Value) : Reading BreakerBlock := do
  let f ← Fields.ofValue fieldNames v
  return {
    base := ← f.get? "base_config" readString
    failureRateThreshold := ← f.get? "failure_rate_threshold" readSingle
    slowCallRateThreshold := ← f.get? "slow_call_rate_threshold" readSingle
    slowCallDuration := ← f.get? "slow_call_duration_threshold_ms" (readCount 64)
    windowKind := ← f.get? "sliding_window_type" (readName windowKindOfText?)
    windowSize := ← f.get? "sliding_window_size" (readCount 64)
    minimumCalls := ← f.get? "minimum_number_of_calls" (readCount 64)
    permittedProbes :=
      ← f.get? "permitted_number_of_calls_in_half_open_state" (readCount 32)
    maxHalfOpenWait := ← f.get? "max_wait_duration_in_half_open_state_ms" (readCount 64)
    openWait := ← f.get? "wait_duration_in_open_state_ms" (readCount 64)
    multiplier := ← f.get? "exponential_backoff_multiplier" readDouble
    maxOpenWait :=
      ← f.get? "exponential_max_wait_duration_in_open_state_ms" (readCount 64) }

def pairs (b : BreakerBlock) : List (String × Toml.Scalar) :=
  pair? "base_config" .string b.base ++
  pair? "failure_rate_threshold" .single b.failureRateThreshold ++
  pair? "slow_call_rate_threshold" .single b.slowCallRateThreshold ++
  pair? "slow_call_duration_threshold_ms" .integer b.slowCallDuration ++
  pair? "sliding_window_type" .string (b.windowKind.map windowKindText) ++
  pair? "sliding_window_size" .integer b.windowSize ++
  pair? "minimum_number_of_calls" .integer b.minimumCalls ++
  pair? "permitted_number_of_calls_in_half_open_state" .integer b.permittedProbes ++
  pair? "max_wait_duration_in_half_open_state_ms" .integer b.maxHalfOpenWait ++
  pair? "wait_duration_in_open_state_ms" .integer b.openWait ++
  pair? "exponential_backoff_multiplier" .double b.multiplier ++
  pair? "exponential_max_wait_duration_in_open_state_ms" .integer b.maxOpenWait

/-- The open wait that a block describes, if it describes one. -/
def interval (b : BreakerBlock) : Except Error (Option Interval) :=
  match b.multiplier, b.openWait with
  | some multiplier, first =>
    (Interval.exponential (layMillis first (.ofSeconds 60)) multiplier
      (layMillis b.maxOpenWait .longest)).map some
  | none, some wait => .ok (some (.fixed (.ofMillis wait)))
  | none, none => .ok none

def overlay {ε ν : Type} (b : BreakerBlock) :
    Except Error (Breaker.Config ε ν → Breaker.Config ε ν) := do
  let interval ← b.interval
  return fun c =>
    { c with
      failureRateThreshold := lay b.failureRateThreshold c.failureRateThreshold
      slowCallRateThreshold := lay b.slowCallRateThreshold c.slowCallRateThreshold
      slowCallDuration := layMillis b.slowCallDuration c.slowCallDuration
      windowKind := lay b.windowKind c.windowKind
      windowSize := lay b.windowSize c.windowSize
      minimumCalls := lay b.minimumCalls c.minimumCalls
      permittedProbes := lay b.permittedProbes c.permittedProbes
      maxHalfOpenWait := layMillis b.maxHalfOpenWait c.maxHalfOpenWait
      openWait := lay interval c.openWait }

end BreakerBlock

def Kind.breaker (ε ν : Type) : Kind BreakerBlock (Breaker.Config ε ν) (Breaker ε ν) where
  heading := "circuit_breaker"
  base := (·.base)
  overlay := BreakerBlock.overlay
  validate := Breaker.Config.validate
  standard := {}
  make now name config := Breaker.new name config now
  created := ⟨.debug, "bulwark_core_resilience::circuit_breaker", "circuit breaker created"⟩

/-! ### Rate limiters -/

structure LimiterBlock where
  base : Option String := none
  limitForPeriod : Option Nat := none
  refreshPeriod : Option Nat := none
  timeout : Option Nat := none
  deriving BEq, Inhabited

namespace LimiterBlock

def fieldNames : List String :=
  ["base_config", "limit_for_period", "limit_refresh_period_ms", "timeout_duration_ms"]

def ofValue (v : Toml.Value) : Reading LimiterBlock := do
  let f ← Fields.ofValue fieldNames v
  return {
    base := ← f.get? "base_config" readString
    limitForPeriod := ← f.get? "limit_for_period" (readCount 32)
    refreshPeriod := ← f.get? "limit_refresh_period_ms" (readCount 64)
    timeout := ← f.get? "timeout_duration_ms" (readCount 64) }

def pairs (b : LimiterBlock) : List (String × Toml.Scalar) :=
  pair? "base_config" .string b.base ++
  pair? "limit_for_period" .integer b.limitForPeriod ++
  pair? "limit_refresh_period_ms" .integer b.refreshPeriod ++
  pair? "timeout_duration_ms" .integer b.timeout

def overlay (b : LimiterBlock) : Except Error (Limiter.Config → Limiter.Config) :=
  .ok fun c =>
    { limitForPeriod := lay b.limitForPeriod c.limitForPeriod
      refreshPeriod := layMillis b.refreshPeriod c.refreshPeriod
      timeout := layMillis b.timeout c.timeout }

end LimiterBlock

def Kind.limiter : Kind LimiterBlock Limiter.Config Limiter where
  heading := "rate_limiter"
  base := (·.base)
  overlay := LimiterBlock.overlay
  validate := Limiter.Config.validate
  standard := {}
  make now name config := Limiter.new name config now
  created := ⟨.debug, "bulwark_core_resilience::rate_limiter", "rate limiter created"⟩

/-! ### Bulkheads -/

structure BulkheadBlock where
  base : Option String := none
  maxConcurrentCalls : Option Nat := none
  maxWait : Option Nat := none
  deriving BEq, Inhabited

namespace BulkheadBlock

def fieldNames : List String := ["base_config", "max_concurrent_calls", "max_wait_duration_ms"]

def ofValue (v : Toml.Value) : Reading BulkheadBlock := do
  let f ← Fields.ofValue fieldNames v
  return {
    base := ← f.get? "base_config" readString
    maxConcurrentCalls := ← f.get? "max_concurrent_calls" (readCount 64)
    maxWait := ← f.get? "max_wait_duration_ms" (readCount 64) }

def pairs (b : BulkheadBlock) : List (String × Toml.Scalar) :=
  pair? "base_config" .string b.base ++
  pair? "max_concurrent_calls" .integer b.maxConcurrentCalls ++
  pair? "max_wait_duration_ms" .integer b.maxWait

def overlay (b : BulkheadBlock) : Except Error (Bulkhead.Config → Bulkhead.Config) :=
  .ok fun c =>
    { maxConcurrentCalls := lay b.maxConcurrentCalls c.maxConcurrentCalls
      maxWait := layMillis b.maxWait c.maxWait }

end BulkheadBlock

def Kind.bulkhead : Kind BulkheadBlock Bulkhead.Config Bulkhead where
  heading := "bulkhead"
  base := (·.base)
  overlay := BulkheadBlock.overlay
  validate := Bulkhead.Config.validate
  standard := {}
  make _ := Bulkhead.new
  created := ⟨.debug, "bulwark_core_resilience::bulkhead", "bulkhead created"⟩

/-! ### Retries -/

structure RetryBlock where
  base : Option String := none
  maxAttempts : Option Nat := none
  /-- The wait, or the first one if there is a multiplier. -/
  wait : Option Nat := none
  multiplier : Option Float := none
  maxWait : Option Nat := none
  /-- How far a wait may be from its value, as a part of it. -/
  randomization : Option Float := none
  deriving BEq, Inhabited

namespace RetryBlock

def fieldNames : List String :=
  ["base_config", "max_attempts", "wait_duration_ms", "exponential_backoff_multiplier",
    "exponential_max_wait_duration_ms", "randomized_wait_factor"]

def ofValue (v : Toml.Value) : Reading RetryBlock := do
  let f ← Fields.ofValue fieldNames v
  return {
    base := ← f.get? "base_config" readString
    maxAttempts := ← f.get? "max_attempts" (readCount 32)
    wait := ← f.get? "wait_duration_ms" (readCount 64)
    multiplier := ← f.get? "exponential_backoff_multiplier" readDouble
    maxWait := ← f.get? "exponential_max_wait_duration_ms" (readCount 64)
    randomization := ← f.get? "randomized_wait_factor" readDouble }

def pairs (b : RetryBlock) : List (String × Toml.Scalar) :=
  pair? "base_config" .string b.base ++
  pair? "max_attempts" .integer b.maxAttempts ++
  pair? "wait_duration_ms" .integer b.wait ++
  pair? "exponential_backoff_multiplier" .double b.multiplier ++
  pair? "exponential_max_wait_duration_ms" .integer b.maxWait ++
  pair? "randomized_wait_factor" .double b.randomization

/-- The wait that a block describes, if it describes one. -/
def interval (b : RetryBlock) : Except Error (Option Interval) :=
  let first := layMillis b.wait (.ofMillis 500)
  let longest := layMillis b.maxWait .longest
  match b.multiplier, b.randomization with
  | some multiplier, some factor =>
    (Interval.exponentialRandomized first multiplier factor longest).map some
  | some multiplier, none => (Interval.exponential first multiplier longest).map some
  | none, some factor => (Interval.randomized first factor).map some
  | none, none => .ok (b.wait.map fun _ => .fixed first)

def overlay {ε ν : Type} (b : RetryBlock) :
    Except Error (Retry.Config ε ν → Retry.Config ε ν) := do
  let interval ← b.interval
  return fun c =>
    { c with
      maxAttempts := lay b.maxAttempts c.maxAttempts
      interval := lay interval c.interval }

end RetryBlock

def Kind.retry (ε ν : Type) : Kind RetryBlock (Retry.Config ε ν) (Retry ε ν) where
  heading := "retry"
  base := (·.base)
  overlay := RetryBlock.overlay
  validate := Retry.Config.validate
  standard := {}
  make _ name config := Retry.new name config
  created := ⟨.debug, "bulwark_core_resilience::retry", "retry created"⟩

end FaultTolerance.Settings
