import FaultTolerance.Logging.Line
import FaultTolerance.Telemetry.Record

/-!
What the log says about reports: a line of the instance itself for some of them, and a line that
carries the record for everyone who follows the instance.
-/

namespace FaultTolerance.Telemetry

open Stack (Report)

/-- A line of the log. The line about a report carries its record. -/
structure Entry where
  line : LogLine
  record : Option Record := none
  deriving DecidableEq, Repr, Inhabited

def breakerTarget : String := "bulwark_core_resilience::circuit_breaker"

def retryTarget : String := "bulwark_core_resilience::retry"

/-- An entry as one object of a log file. The record stands in it field by field and as text. -/
def Entry.toJson (e : Entry) : Json :=
  let more : List (String × String) :=
    match e.record with
    | none => []
    | some r =>
      [("primitive", r.primitive), ("name", r.name), ("kind", r.kind), ("json", r.text)]
  let fields := (("message", e.line.message) :: more).map fun (name, text) =>
    (name, Json.string text)
  .object
    [("level", .string e.line.level.mark), ("fields", .object fields),
      ("target", .string e.line.target)]

/-- What an instance says before its report. The configurations of a program that logs have no
predicates, so a retry gives up only when its attempts are used up. -/
def linesBefore : Report → List LogLine
  | .breaker (.ignoredError ..) => [⟨.debug, breakerTarget, "ignored error not recorded"⟩]
  | .breaker .callNotPermitted => [⟨.warn, breakerTarget, "call not permitted"⟩]
  | .breaker (.stateTransition ..) =>
    [⟨.info, breakerTarget, "circuit breaker state transition"⟩]
  | .breaker .reset => [⟨.info, breakerTarget, "circuit breaker reset"⟩]
  | .retry (.retry ..) => [⟨.debug, retryTarget, "retrying"⟩]
  | .retry (.error ..) => [⟨.warn, retryTarget, "retries exhausted"⟩]
  | .retry (.ignoredError _) => [⟨.debug, retryTarget, "ignored error, not retried"⟩]
  | _ => []

/-- What an instance says after its report. -/
def linesAfter : Report → List LogLine
  | .breaker (.success _) | .breaker (.error ..) =>
    [⟨.debug, breakerTarget, "call recorded"⟩]
  | _ => []

/-- The line for a follower. -/
def followed (r : Record) : Entry := ⟨⟨.info, "bulwark::events", "resilience event"⟩, some r⟩

/-- The log about a report of an instance that somebody follows. -/
def entries (timestamp name : String) (r : Report) : List Entry :=
  (linesBefore r).map ({ line := · }) ++ [followed (.ofReport timestamp name r)] ++
    (linesAfter r).map ({ line := · })

end FaultTolerance.Telemetry
