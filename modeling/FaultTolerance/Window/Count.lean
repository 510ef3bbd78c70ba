import FaultTolerance.Ring
import FaultTolerance.Window.Outcome

/-!
The last calls, up to a fixed number of them. The counts are kept up to date as calls come and go:
a call that the ring gives up is taken out of them.
-/

namespace FaultTolerance

structure CountWindow where
  ring : Ring Measurement
  total : Totals := {}

namespace CountWindow

def empty (size : Nat) : CountWindow := { ring := .empty size }

def record (w : CountWindow) (m : Measurement) : CountWindow :=
  match w.ring.insert m with
  | (ring, some evicted) => ⟨ring, (w.total.discard evicted).record m⟩
  | (ring, none) => ⟨ring, w.total.record m⟩

/-- Counts the stored calls anew. -/
def recount (w : CountWindow) : Totals := .ofList w.ring.toList

def reset (w : CountWindow) : CountWindow := { ring := w.ring.clear }

end CountWindow

end FaultTolerance
