import FaultTolerance.Stack.World

/-!
Calls that block their caller: every wait is slept out on the spot.
-/

namespace FaultTolerance.Stack.World

variable {ε ν : Type} [Timer] [Fault ε]

omit [Fault ε] in
/-- Waits for the answer of a layer on the thread of the call. A position without a layer lets
everything pass. -/
def enterBlocking (w : World ε ν) (i : Nat) : World ε ν × (Hold ⊕ Error) :=
  match w.layers[i]? with
  | none => (w, .inl .nothing)
  | some layer =>
    let (layer, reports, answer, slept) := layer.enterBlocking w.now w.timer
    ((w.put i layer reports).pass slept, answer)

/-- Goes on with a call inside a layer until the layer lets it go, sending it in again `fuel` times
at most. -/
def around (i : Nat) (inner : World ε ν → World ε ν × Ending ε ν) (fuel : Nat) (h : Hold)
    (w : World ε ν) : World ε ν × Ending ε ν :=
  let settle (w : World ε ν) (ending : Ending ε ν) (outcome : Except ε ν) :
      World ε ν × Ending ε ν :=
    match w.leave i h outcome with
    | (w, .done) => (w, ending)
    | (w, .broken) => (w, .panicked)
    | (w, .again attempts wait) =>
      match fuel with
      | 0 => (w, ending)
      | fuel + 1 => around i inner fuel (.attempts attempts) (w.pass wait)
  match inner w with
  | (w, .returned v) => settle w (.returned v) (.ok v)
  | (w, .failed e) => settle w (.failed e) (.error e)
  | (w, .panicked) => (w.abandon i h, .panicked)

/-- Runs an operation inside the layers at the given positions, the outermost first. -/
def call (operation : Nat → Run ε ν) : List Nat → World ε ν → World ε ν × Ending ε ν
  | [], w => w.beginRun.endRun (operation w.runs)
  | i :: inner, w =>
    match w.enterBlocking i with
    | (w, .inl h) => around i (call operation inner) (w.patience i) h w
    | (w, .inr e) => (w, .failed (Fault.ofRefusal e))

end FaultTolerance.Stack.World
