/-!
The states of a circuit breaker and the table of its transitions.

`transition` is the whole state machine: the next state for a trigger, or nothing when the trigger
does not apply. Moving into the current state on request is nothing, a reset always leads to
`closed`.
-/

namespace FaultTolerance.Breaker

inductive State where
  /-- Calls pass and their outcomes are recorded. -/
  | closed
  /-- Calls are refused until the open wait is over. -/
  | opened
  /-- A limited number of probe calls decide between closed and open. -/
  | halfOpen
  /-- Calls pass and nothing is recorded. -/
  | disabled
  /-- Calls are always refused. -/
  | forcedOpen
  /-- Calls pass and are recorded, the breaker never opens. -/
  | metricsOnly
  deriving DecidableEq, Repr, Inhabited

namespace State

def text : State → String
  | closed => "CLOSED"
  | opened => "OPEN"
  | halfOpen => "HALF_OPEN"
  | disabled => "DISABLED"
  | forcedOpen => "FORCED_OPEN"
  | metricsOnly => "METRICS_ONLY"

def describe : State → String
  | closed => "Closed"
  | opened => "Open"
  | halfOpen => "HalfOpen"
  | disabled => "Disabled"
  | forcedOpen => "ForcedOpen"
  | metricsOnly => "MetricsOnly"

/-- Whether outcomes that are reported in this state are written to the window. -/
def recordsOutcomes : State → Bool
  | disabled => false
  | _ => true

/-- All states. -/
def all : List State := [closed, opened, halfOpen, disabled, forcedOpen, metricsOnly]

/-- The state with the given text. -/
def ofText? (s : String) : Option State := all.find? (·.text = s)

end State

/-- Something that may move a breaker to another state. -/
inductive Trigger where
  /-- A rate reached its threshold while closed. -/
  | thresholdsExceeded
  /-- The open wait is over. -/
  | openWaitElapsed
  /-- All probes are back and no threshold is reached. -/
  | probesPassed
  /-- All probes are back and a threshold is reached. -/
  | probesFailed
  /-- The half-open state has lasted too long. -/
  | halfOpenWaitElapsed
  | reset
  /-- A move to the given state on request. -/
  | force (target : State)
  deriving DecidableEq, Repr, Inhabited

def Trigger.describe : Trigger → String
  | thresholdsExceeded => "ThresholdsExceeded"
  | openWaitElapsed => "OpenWaitElapsed"
  | probesPassed => "ProbesPassed"
  | probesFailed => "ProbesFailed"
  | halfOpenWaitElapsed => "HalfOpenWaitElapsed"
  | reset => "Reset"
  | force target => "Force(" ++ target.describe ++ ")"

/-- The trigger of the given text that is not a request for a state. -/
def Trigger.ofText? (s : String) : Option Trigger :=
  [thresholdsExceeded, openWaitElapsed, probesPassed, probesFailed, halfOpenWaitElapsed,
    reset].find? (·.describe = s)

def transition (state : State) (trigger : Trigger) : Option State :=
  match state, trigger with
  | .closed, .thresholdsExceeded => some .opened
  | .opened, .openWaitElapsed => some .halfOpen
  | .halfOpen, .probesFailed => some .opened
  | .halfOpen, .halfOpenWaitElapsed => some .opened
  | .halfOpen, .probesPassed => some .closed
  | _, .reset => some .closed
  | state, .force target => if state = target then none else some target
  | _, _ => none

/-- The text of a change of state. -/
def changeText (start target : State) : String := start.text ++ " -> " ++ target.text

end FaultTolerance.Breaker
