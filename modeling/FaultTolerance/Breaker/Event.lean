import FaultTolerance.Breaker.State
import FaultTolerance.Publisher

/-!
What a circuit breaker reports.
-/

namespace FaultTolerance.Breaker

inductive Event where
  | success (elapsed : Duration)
  | error (elapsed : Duration) (text : String)
  | ignoredError (elapsed : Duration) (text : String)
  | callNotPermitted
  | stateTransition (start target : State)
  | reset
  | failureRateExceeded (rate : Float32)
  | slowCallRateExceeded (rate : Float32)
  deriving DecidableEq, Repr

namespace Event

def kind : Event → String
  | success .. => "SUCCESS"
  | error .. => "ERROR"
  | ignoredError .. => "IGNORED_ERROR"
  | callNotPermitted => "NOT_PERMITTED"
  | stateTransition .. => "STATE_TRANSITION"
  | reset => "RESET"
  | failureRateExceeded .. => "FAILURE_RATE_EXCEEDED"
  | slowCallRateExceeded .. => "SLOW_CALL_RATE_EXCEEDED"

def describe : Event → String
  | success elapsed => Text.record "Success" [("elapsed", Text.duration elapsed)]
  | error elapsed text =>
    Text.record "Error" [("elapsed", Text.duration elapsed), ("error", Text.quoted text)]
  | ignoredError elapsed text =>
    Text.record "IgnoredError" [("elapsed", Text.duration elapsed), ("error", Text.quoted text)]
  | callNotPermitted => "CallNotPermitted"
  | stateTransition start target =>
    Text.wrapped "StateTransition"
      (Text.record "StateTransition" [("from", start.describe), ("to", target.describe)])
  | reset => "Reset"
  | failureRateExceeded rate =>
    Text.record "FailureRateExceeded" [("failure_rate", Text.single rate)]
  | slowCallRateExceeded rate =>
    Text.record "SlowCallRateExceeded" [("slow_call_rate", Text.single rate)]

end Event

instance : Reported Event := ⟨Event.kind, Event.describe⟩

end FaultTolerance.Breaker
