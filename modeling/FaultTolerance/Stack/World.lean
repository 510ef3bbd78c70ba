import FaultTolerance.Stack.Layer

/-!
The instances that calls run through, with the clock they read and the timer they sleep on.

A stack of layers is a list of positions in `World.layers`, the outermost first; one instance may
serve several stacks, or one stack several times. Every report and every run of an operation is
noted in the trace, in the order in which they happen.
-/

namespace FaultTolerance.Stack

/-- How a call ends. -/
inductive Ending (ε ν : Type) where
  | returned (v : ν)
  | failed (e : ε)
  | panicked
  deriving DecidableEq, Repr

/-- What a call that has not panicked reports. -/
def Ending.outcome? {ε ν : Type} : Ending ε ν → Option (Except ε ν)
  | returned v => some (.ok v)
  | failed e => some (.error e)
  | panicked => none

/-- What one run of the protected operation does. A suspended run sleeps first, if it sleeps, and
may then never come back; what is left moves the clock and ends. -/
structure Run (ε ν : Type) where
  sleep : Option Duration := none
  stalls : Bool := false
  takes : Duration := .zero
  ending : Ending ε ν

/-- What happened, in order. -/
inductive Note where
  /-- A run of the operation began, counted from zero. -/
  | ran (run : Nat)
  | reported (layer : Nat) (report : Report)
  deriving DecidableEq, Repr

structure World (ε ν : Type) where
  layers : List (Layer ε ν)
  clock : Clock := {}
  /-- The timer that suspended calls sleep on, in nanoseconds. -/
  timer : Nat := 0
  /-- Whether the clock goes on while a blocking call sleeps. -/
  live : Bool := false
  /-- Runs of the operation so far. -/
  runs : Nat := 0
  trace : List Note := []

namespace World

variable {ε ν : Type}

def now (w : World ε ν) : Nat := w.clock.reading

/-- Puts a layer in its place and notes what it has reported. -/
def put (w : World ε ν) (i : Nat) (layer : Layer ε ν) (reports : List Report) : World ε ν :=
  { w with
    layers := w.layers.set i layer
    trace := w.trace ++ reports.map (.reported i) }

/-- Lets the clock go on during a blocking sleep, if there is one. -/
def pass (w : World ε ν) (d : Duration) : World ε ν :=
  if w.live ∧ d ≠ .zero then { w with clock := w.clock.advance d } else w

/-- A call comes to a layer. A position without a layer lets everything pass. -/
def enter [Timer] (w : World ε ν) (i : Nat) : World ε ν × Entry :=
  match w.layers[i]? with
  | none => (w, .admitted .nothing)
  | some layer =>
    let (layer, reports, entry) := layer.enter w.now w.timer
    (w.put i layer reports, entry)

/-- A waiting call looks again at the given time. -/
def resumeAt [Timer] (w : World ε ν) (i timer : Nat) (wait : Wait) : World ε ν × Entry :=
  match w.layers[i]? with
  | none => (w, .waiting wait)
  | some layer =>
    let (layer, reports, entry) := layer.resume w.now timer wait
    (w.put i layer reports, entry)

def cancel (w : World ε ν) (i : Nat) (wait : Wait) : World ε ν :=
  match w.layers[i]? with
  | none => w
  | some layer => w.put i (layer.cancel wait) []

def leave [Fault ε] (w : World ε ν) (i : Nat) (h : Hold) (outcome : Except ε ν) :
    World ε ν × Exit :=
  match w.layers[i]? with
  | none => (w, .done)
  | some layer =>
    let (layer, reports, exit) := layer.leave w.now h outcome
    (w.put i layer reports, exit)

def abandon (w : World ε ν) (i : Nat) (h : Hold) : World ε ν :=
  match w.layers[i]? with
  | none => w
  | some layer =>
    let (layer, reports) := layer.abandon h
    w.put i layer reports

/-- How often the layer sends a call in again at most. -/
def patience (w : World ε ν) (i : Nat) : Nat := (w.layers[i]?.map Layer.patience).getD 0

/-- Counts and notes a run of the operation. -/
def beginRun (w : World ε ν) : World ε ν :=
  { w with runs := w.runs + 1, trace := w.trace ++ [.ran w.runs] }

/-- The end of a run. -/
def endRun (w : World ε ν) (run : Run ε ν) : World ε ν × Ending ε ν :=
  ({ w with clock := w.clock.advance run.takes }, run.ending)

end World

end FaultTolerance.Stack
