import FaultTolerance.Interval
import FaultTolerance.Validation
import FaultTolerance.Publisher

/-!
Calling again what has failed.

A call counts its attempts. After each attempt `Retry.onOutcome` decides: another attempt after a
wait, or the outcome as it stands. Errors that are ignored, or not worth another attempt, end the
call at once; so does a value, unless the policy asks for another one.
-/

namespace FaultTolerance

namespace Retry

/-- `ε` is the type of reported errors and `ν` the type of returned values. -/
structure Config (ε ν : Type) where
  /-- All attempts together, the first one included. -/
  maxAttempts : Nat := 3
  /-- The wait after so many attempts. -/
  interval : Interval := .standard
  /-- Errors worth another attempt; without it every error is. -/
  retryOnError : Option (ε → Bool) := none
  /-- Errors that end the call and are counted nowhere. -/
  ignoreError : Option (ε → Bool) := none
  /-- Values worth another attempt. -/
  retryOnResult : Option (ν → Bool) := none

instance {ε ν : Type} : Inhabited (Config ε ν) := ⟨{}⟩

namespace Config

variable {ε ν : Type}

def validate (c : Config ε ν) : Except Error Unit :=
  require (c.maxAttempts != 0) "max_attempts must be at least 1"

def isIgnored (c : Config ε ν) (e : ε) : Bool := c.ignoreError.any (· e)

def isRetriedError (c : Config ε ν) (e : ε) : Bool := c.retryOnError.all (· e)

def isRetriedResult (c : Config ε ν) (v : ν) : Bool := c.retryOnResult.any (· v)

def describe (c : Config ε ν) : String :=
  Text.record "RetryConfig"
    [("max_attempts", toString c.maxAttempts),
      ("interval_function", c.interval.describe),
      ("retry_on_error", Text.boolean c.retryOnError.isSome),
      ("ignore_error", Text.boolean c.ignoreError.isSome),
      ("retry_on_result", Text.boolean c.retryOnResult.isSome)]

end Config

inductive Event where
  /-- Another attempt follows after the wait. -/
  | retry (attempt : Nat) (wait : Duration) (text : String)
  /-- Success after one retry at least. -/
  | success (attempts : Nat)
  /-- Failure for good. -/
  | error (attempts : Nat) (text : String)
  | ignoredError (text : String)
  deriving DecidableEq, Repr

namespace Event

def kind : Event → String
  | retry .. => "RETRY"
  | success .. => "SUCCESS"
  | error .. => "ERROR"
  | ignoredError .. => "IGNORED_ERROR"

def describe : Event → String
  | retry attempt wait text =>
    Text.record "Retry"
      [("attempt", toString attempt), ("wait", Text.duration wait), ("error", Text.quoted text)]
  | success attempts => Text.record "Success" [("attempts", toString attempts)]
  | error attempts text =>
    Text.record "Error" [("attempts", toString attempts), ("error", Text.quoted text)]
  | ignoredError text => Text.record "IgnoredError" [("error", Text.quoted text)]

end Event

instance : Reported Event := ⟨Event.kind, Event.describe⟩

/-- How calls have ended. -/
structure Metrics where
  succeededWithoutRetry : Nat := 0
  succeededWithRetry : Nat := 0
  /-- Failed with an error that is not worth another attempt. -/
  failedWithoutRetry : Nat := 0
  /-- Failed after the last attempt. -/
  failedWithRetry : Nat := 0
  deriving DecidableEq, Repr, Inhabited

/-- What to do after an attempt. -/
inductive Decision where
  | retry (wait : Duration)
  | stop
  deriving DecidableEq, Repr

end Retry

structure Retry (ε ν : Type) where
  name : String
  config : Retry.Config ε ν
  metrics : Retry.Metrics := {}
  /-- The draws for the waits that are still to come. -/
  draws : Draws := .middle

namespace Retry

variable {ε ν : Type}

def new (name : String) (config : Config ε ν) (draws : Draws := .middle) :
    Except Error (Retry ε ν) := do
  config.validate
  return { name, config, draws }

/-- Another attempt if there is one left, failure for good if not. Each wait uses a draw. -/
def retryOrGiveUp (r : Retry ε ν) (attempts : Nat) (text : String) :
    Retry ε ν × List Event × Decision :=
  if attempts < r.config.maxAttempts then
    let wait := r.config.interval.wait attempts r.draws.next
    ({ r with draws := r.draws.drop 1 }, [.retry attempts wait text], .retry wait)
  else
    ({ r with metrics := { r.metrics with failedWithRetry := r.metrics.failedWithRetry + 1 } },
      [.error attempts text], .stop)

/-- After the given number of attempts, the last of which returned a value. -/
def onResult (r : Retry ε ν) (attempts : Nat) (v : ν) : Retry ε ν × List Event × Decision :=
  if r.config.isRetriedResult v then r.retryOrGiveUp attempts "result matched retry_on_result"
  else if attempts ≤ 1 then
    ({ r with metrics :=
        { r.metrics with succeededWithoutRetry := r.metrics.succeededWithoutRetry + 1 } },
      [], .stop)
  else
    ({ r with metrics :=
        { r.metrics with succeededWithRetry := r.metrics.succeededWithRetry + 1 } },
      [.success attempts], .stop)

/-- After the given number of attempts, the last of which ended with an error. -/
def onError [Fault ε] (r : Retry ε ν) (attempts : Nat) (e : ε) :
    Retry ε ν × List Event × Decision :=
  if r.config.isIgnored e then (r, [.ignoredError (Fault.text e)], .stop)
  else if r.config.isRetriedError e then r.retryOrGiveUp attempts (Fault.text e)
  else
    ({ r with metrics :=
        { r.metrics with failedWithoutRetry := r.metrics.failedWithoutRetry + 1 } },
      [.error attempts (Fault.text e)], .stop)

def onOutcome [Fault ε] (r : Retry ε ν) (attempts : Nat) :
    Except ε ν → Retry ε ν × List Event × Decision
  | .ok v => r.onResult attempts v
  | .error e => r.onError attempts e

def describe (r : Retry ε ν) : String :=
  Text.record "Retry" [("name", Text.quoted r.name), ("config", r.config.describe)]

/-- The text of a call that has made so many attempts. -/
def describeCall (r : Retry ε ν) (attempts : Nat) : String :=
  Text.record "RetryContext" [("retry", r.describe), ("attempts", toString attempts)]

end Retry

end FaultTolerance
