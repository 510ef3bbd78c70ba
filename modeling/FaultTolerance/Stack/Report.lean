import FaultTolerance.Breaker.Event
import FaultTolerance.Limiter.Config
import FaultTolerance.Adaptive.Config
import FaultTolerance.Retry

/-!
The reports of all primitives as one type, with what each of them says field by field.
-/

namespace FaultTolerance.Stack

/-- A report of any primitive. -/
inductive Report where
  | breaker (e : Breaker.Event)
  | limiter (e : Limiter.Event)
  | bulkhead (e : Bulkhead.Event)
  | adaptive (n : Adaptive.Notice)
  | retry (e : Retry.Event)
  deriving DecidableEq, Repr

/-- The value of one field of a report. -/
inductive Detail where
  | count (n : Int)
  | duration (d : Duration)
  | rate (x : Float32)
  | text (s : String)
  deriving DecidableEq, Repr

namespace Report

/-- The family of the instance that reports. -/
def primitive : Report → String
  | breaker _ => "circuit_breaker"
  | limiter _ => "rate_limiter"
  | bulkhead _ | adaptive (.permits _) => "bulkhead"
  | adaptive (.own _) => "adaptive_bulkhead"
  | retry _ => "retry"

def kind : Report → String
  | breaker e => e.kind
  | limiter e => e.kind
  | bulkhead e | adaptive (.permits e) => e.kind
  | adaptive (.own e) => e.kind
  | retry e => e.kind

def describe : Report → String
  | breaker e => e.describe
  | limiter e => e.describe
  | bulkhead e | adaptive (.permits e) => e.describe
  | adaptive (.own e) => e.describe
  | retry e => e.describe

/-- Whether an adaptive bulkhead passes on a report about its permits. -/
def isAboutPermits : Report → Bool
  | adaptive (.permits _) => true
  | _ => false

/-- The fields of a finished call with an error. -/
def failed (elapsed : Duration) (error : String) : List (String × Detail) :=
  [("elapsed", .duration elapsed), ("error", .text error)]

def details : Report → List (String × Detail)
  | breaker (.success elapsed) | adaptive (.own (.success elapsed)) =>
    [("elapsed", .duration elapsed)]
  | breaker (.error elapsed error) | breaker (.ignoredError elapsed error) => failed elapsed error
  | breaker (.stateTransition start target) =>
    [("change", .text (Breaker.changeText start target))]
  | breaker (.failureRateExceeded rate) | breaker (.slowCallRateExceeded rate) =>
    [("rate", .rate rate)]
  | breaker .callNotPermitted | breaker .reset => []
  | limiter (.successfulAcquire permits) | limiter (.failedAcquire permits) =>
    [("permits", .count permits)]
  | limiter (.drained permits) => [("permits", .count permits)]
  | bulkhead _ | adaptive (.permits _) => []
  | adaptive (.own (.error elapsed error)) | adaptive (.own (.ignoredError elapsed error)) =>
    failed elapsed error
  | adaptive (.own (.limitChanged before after)) => [("old", .count before), ("new", .count after)]
  | retry (.retry attempt wait error) =>
    [("attempt", .count attempt), ("wait", .duration wait), ("error", .text error)]
  | retry (.success attempts) => [("attempts", .count attempts)]
  | retry (.error attempts error) => [("attempts", .count attempts), ("error", .text error)]
  | retry (.ignoredError error) => [("error", .text error)]

end Report

instance : Reported Report := ⟨Report.kind, Report.describe⟩

end FaultTolerance.Stack
