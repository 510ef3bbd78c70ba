import FaultTolerance.Window.Count
import FaultTolerance.Window.Timed
import FaultTolerance.Window.Snapshot

/-!
A sliding window over finished calls, by number or by time. Times are readings of the clock in
nanoseconds; a window by number ignores them.
-/

namespace FaultTolerance

/-- How a window decides which calls are recent. -/
inductive WindowKind where
  | countBased
  | timeBased
  deriving DecidableEq, Repr, Inhabited

def WindowKind.describe : WindowKind → String
  | countBased => "CountBased"
  | timeBased => "TimeBased"

inductive WindowCalls where
  | count (w : CountWindow)
  | timed (w : TimedWindow)

structure Window where
  calls : WindowCalls
  /-- The number of calls or of seconds that it spans. -/
  size : Nat
  /-- Rates mean nothing below this number of calls. -/
  minimumCalls : Nat

namespace Window

/-- A window over the last `size` calls. -/
def countBased (size minimumCalls : Nat) : Except Error Window := do
  let _ ← (Ring.ofCapacity size : Except Error (Ring Measurement))
  return { calls := .count (.empty size), size, minimumCalls }

/-- A window over the last `size` seconds. -/
def timeBased (size minimumCalls now : Nat) : Except Error Window :=
  if size = 0 then
    .error (.invalidConfig "time window size must be greater than 0 seconds")
  else .ok { calls := .timed (.empty size (secondsOf now)), size, minimumCalls }

def ofKind (kind : WindowKind) (size minimumCalls now : Nat) : Except Error Window :=
  match kind with
  | .countBased => countBased size minimumCalls
  | .timeBased => timeBased size minimumCalls now

def kind (w : Window) : WindowKind :=
  match w.calls with
  | .count _ => .countBased
  | .timed _ => .timeBased

/-- The counts as they stand, without looking at the clock. -/
def total (w : Window) : Totals :=
  match w.calls with
  | .count c => c.total
  | .timed t => t.total

/-- The counts with the number of calls that they need. -/
def view (w : Window) : Snapshot := ⟨w.total, w.minimumCalls⟩

/-- Lets go of what is no longer recent. -/
def refresh (w : Window) (now : Nat) : Window :=
  match w.calls with
  | .count _ => w
  | .timed t => { w with calls := .timed (t.turnTo (secondsOf now)) }

/-- Records one call. -/
def record (w : Window) (now : Nat) (m : Measurement) : Window :=
  match w.calls with
  | .count c => { w with calls := .count (c.record m) }
  | .timed t => { w with calls := .timed (t.record (secondsOf now) m) }

/-- The running counts beside the counts made anew from what is stored. -/
def recount (w : Window) : Totals × Totals :=
  match w.calls with
  | .count c => (c.total, c.recount)
  | .timed t => (t.total, t.recount)

/-- Forgets every call. -/
def reset (w : Window) (now : Nat) : Window :=
  match w.calls with
  | .count c => { w with calls := .count c.reset }
  | .timed t => { w with calls := .timed (t.reset (secondsOf now)) }

def describe (w : Window) : String :=
  Text.record "SlidingWindowMetrics"
    [("type", w.kind.describe), ("size", toString w.size),
      ("minimum_number_of_calls", toString w.minimumCalls)]

end Window

end FaultTolerance
