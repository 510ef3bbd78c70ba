import FaultTolerance.Failure
import FaultTolerance.Settings.Loading
import FaultTolerance.Stack.Blocking
import FaultTolerance.Stack.Session
import FaultTolerance.Telemetry.Log

/-!
Driving a configured breaker with synthetic outcomes.

Every call goes through the breaker, and through a retry around it if one is named. Operations take
no time; a retry sleeps between attempts. What the run prints and what the log says is one list, in
the order in which it happens.
-/

namespace FaultTolerance.CommandLine

open Stack (Layer Note Run World)

/-- What a run of the program puts out. -/
inductive Output where
  | print (line : String)
  | log (entry : Telemetry.Entry)
  deriving DecidableEq, Repr

/-- Fills a text up with blanks on its right. -/
def leftAligned (width : Nat) (s : String) : String := s.pushn ' ' (width - s.length)

/-- Fills a text up with blanks on its left. -/
def rightAligned (width : Nat) (s : String) : String := "".pushn ' ' (width - s.length) ++ s

namespace Simulation

abbrev Calls : Type := World Error Unit

/-- How the calls have ended. -/
structure Tally where
  succeeded : Nat := 0
  failed : Nat := 0
  rejected : Nat := 0
  deriving DecidableEq, Repr, Inhabited

def Tally.add (t : Tally) : Stack.Ending Error Unit → Tally
  | .returned _ => { t with succeeded := t.succeeded + 1 }
  | .failed e =>
    if e.isRejection then { t with rejected := t.rejected + 1 }
    else { t with failed := t.failed + 1 }
  | .panicked => { t with failed := t.failed + 1 }

structure State where
  world : Calls
  tally : Tally := {}
  /-- What was put out, the latest first. -/
  outputs : List Output := []

/-- Calls are counted from one. -/
def operation (failEvery call : Nat) : Run Error Unit where
  ending :=
    if 0 < failEvery && call % failEvery = 0 then
      .failed (.invalidConfig ("synthetic failure #" ++ toString call))
    else .returned ()

/-- The breaker is the first layer. -/
def breakerMetrics? (w : Calls) : Option Breaker.Metrics :=
  match w.layers with
  | .breaker b :: _ => some b.metrics
  | _ => none

def stateText (w : Calls) : String := ((breakerMetrics? w).map (·.state.text)).getD ""

/-- The log about what happened in a world. -/
def logOf (w : Calls) : List Output :=
  w.trace.flatMap fun
    | .ran _ => []
    | .reported i r =>
      (Telemetry.entries "" ((w.layers[i]?.map Layer.name).getD "") r).map .log

/-- Makes one call. -/
def step (failEvery : Nat) (path : List Nat) (s : State) (call : Nat) : State :=
  let before := stateText s.world
  let (w, ending) := s.world.call (fun _ => operation failEvery call) path
  let after := stateText w
  let change :=
    if before = after then []
    else [.print ("call " ++ rightAligned 5 (toString call) ++ ": " ++ before ++ " -> " ++ after)]
  { world := { w with trace := [] }
    tally := s.tally.add ending
    outputs := change ++ (logOf w).reverse ++ s.outputs }

def closingLines (calls : Nat) (elapsed : Duration) (s : State) : List String :=
  let t := s.tally
  let counts := toString calls ++ " calls in " ++ Text.duration elapsed ++ ": " ++
    toString t.succeeded ++ " succeeded, " ++ toString t.failed ++ " failed, " ++
    toString t.rejected ++ " rejected"
  match breakerMetrics? s.world.refresh with
  | none => [counts]
  | some m =>
    let rate := (Decimal.Number.ofSingle m.snapshot.failureRate).fixed 1
    [counts,
      "final state " ++ m.state.text ++ " (failure rate " ++ rate ++ "%, not permitted " ++
        toString m.rejected ++ ")"] ++
      if m.state = .opened then ["breaker is open; it will admit probes after its open wait"]
      else []

/-- Drives layers, of which the first is the breaker. -/
def run (layers : List (Layer Error Unit)) (calls failEvery : Nat) : List Output :=
  let path := (List.range layers.length).reverse
  let s := ((List.range calls).map (· + 1)).foldl (step failEvery path)
    { world := { layers, live := true } }
  s.outputs.reverse ++ (closingLines calls ⟨s.world.now⟩ s).map .print

end Simulation

/-- Looks the named instances up and drives them. -/
def simulate (r : Registries Error Unit) (breaker : String) (retry : Option String)
    (calls failEvery : Nat) : Except Failure (List Output) := do
  let some b := r.breakers.find? breaker | .error (.unknownInstance "circuit_breaker" breaker)
  match retry with
  | none => return Simulation.run [.breaker b.value] calls failEvery
  | some name =>
    let some r := r.retries.find? name | .error (.unknownInstance "retry" name)
    return Simulation.run [.breaker b.value, .retry r.value] calls failEvery

end FaultTolerance.CommandLine
