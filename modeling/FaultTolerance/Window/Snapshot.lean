import FaultTolerance.Window.Outcome

/-!
A view of a window's counts. The rates are percentages and mean nothing until the window has seen
enough calls; until then they read as `-1`.
-/

namespace FaultTolerance

/-- The rate of a window that has not seen enough calls. -/
def notMeaningful : Float32 := -1.0

/-- Counts together with the number of calls from which on their rates mean something. -/
structure Snapshot where
  totals : Totals
  minimumCalls : Nat
  deriving DecidableEq, Repr, Inhabited

namespace Snapshot

def succeeded (s : Snapshot) : Nat := s.totals.calls - s.totals.failed

def slowSucceeded (s : Snapshot) : Nat := s.totals.slow - s.totals.slowFailed

/-- All recorded durations together. -/
def totalDuration (s : Snapshot) : Duration := ⟨min s.totals.nanos lastTick⟩

/-- The mean duration, zero for an empty window. -/
def averageDuration (s : Snapshot) : Duration :=
  if s.totals.calls = 0 then .zero else ⟨min (s.totals.nanos / s.totals.calls) lastTick⟩

def isMeaningful (s : Snapshot) : Bool := 0 < s.totals.calls && s.minimumCalls ≤ s.totals.calls

/-- A part of a whole as a percentage. -/
def percentage (part whole : Nat) : Float32 := Float32.ofNat part * 100.0 / Float32.ofNat whole

def failureRate (s : Snapshot) : Float32 :=
  if s.isMeaningful then percentage s.totals.failed s.totals.calls else notMeaningful

def slowCallRate (s : Snapshot) : Float32 :=
  if s.isMeaningful then percentage s.totals.slow s.totals.calls else notMeaningful

end Snapshot

end FaultTolerance
