import FaultTolerance.Time
import FaultTolerance.Text.Described

/-!
What is kept of a finished call: whether it failed, whether it was slow, and how long it took.
`Totals` counts a collection of such measurements; a measurement that has been counted can be
taken out again (`Totals.remove_add`).
-/

namespace FaultTolerance

inductive Outcome where
  | success
  | failure
  | slowSuccess
  | slowFailure
  deriving DecidableEq, Repr, Inhabited

namespace Outcome

def classify (failed slow : Bool) : Outcome :=
  match failed, slow with
  | false, false => success
  | true, false => failure
  | false, true => slowSuccess
  | true, true => slowFailure

def isFailure : Outcome → Bool
  | failure | slowFailure => true
  | _ => false

def isSlow : Outcome → Bool
  | slowSuccess | slowFailure => true
  | _ => false

def describe : Outcome → String
  | success => "Success"
  | failure => "Failure"
  | slowSuccess => "SlowSuccess"
  | slowFailure => "SlowFailure"

@[simp] theorem isFailure_classify (failed slow : Bool) :
    (classify failed slow).isFailure = failed := by
  cases failed <;> cases slow <;> rfl

@[simp] theorem isSlow_classify (failed slow : Bool) : (classify failed slow).isSlow = slow := by
  cases failed <;> cases slow <;> rfl

end Outcome

/-- One finished call. -/
structure Measurement where
  outcome : Outcome
  duration : Duration
  deriving DecidableEq, Repr, Inhabited

/-- Counts over a collection of measurements. -/
structure Totals where
  calls : Nat := 0
  failed : Nat := 0
  slow : Nat := 0
  slowFailed : Nat := 0
  /-- The sum of all durations, in nanoseconds. -/
  nanos : Nat := 0
  deriving DecidableEq, Repr, Inhabited

namespace Totals

/-- The counts of a single measurement. -/
def ofMeasurement (m : Measurement) : Totals :=
  { calls := 1
    failed := m.outcome.isFailure.toNat
    slow := m.outcome.isSlow.toNat
    slowFailed := (m.outcome.isFailure && m.outcome.isSlow).toNat
    nanos := m.duration.nanos }

/-- Counts two collections together. -/
def add (t u : Totals) : Totals :=
  { calls := t.calls + u.calls
    failed := t.failed + u.failed
    slow := t.slow + u.slow
    slowFailed := t.slowFailed + u.slowFailed
    nanos := t.nanos + u.nanos }

/-- Takes the counts of a part out of the counts of the whole. -/
def remove (t u : Totals) : Totals :=
  { calls := t.calls - u.calls
    failed := t.failed - u.failed
    slow := t.slow - u.slow
    slowFailed := t.slowFailed - u.slowFailed
    nanos := t.nanos - u.nanos }

/-- Counts one more measurement. -/
def record (t : Totals) (m : Measurement) : Totals := t.add (ofMeasurement m)

/-- Takes one counted measurement out. -/
def discard (t : Totals) (m : Measurement) : Totals := t.remove (ofMeasurement m)

/-- Counts a list of measurements. -/
def ofList (ms : List Measurement) : Totals := ms.foldl record {}

/-- Adds up a list of counts. -/
def sum (ts : List Totals) : Totals := ts.foldl add {}

theorem remove_add (t u : Totals) : (t.add u).remove u = t := by
  simp [add, remove]

theorem add_assoc (t u v : Totals) : (t.add u).add v = t.add (u.add v) := by
  simp [add, Nat.add_assoc]

theorem add_comm (t u : Totals) : t.add u = u.add t := by
  simp [add, Nat.add_comm]

end Totals

end FaultTolerance
