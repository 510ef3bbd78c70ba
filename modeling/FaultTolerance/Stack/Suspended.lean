import FaultTolerance.Stack.World

/-!
Calls that suspend instead of blocking.

A suspended call is a value that says where the call stands: in the operation, waiting outside a
layer, or inside a layer that has a hold on it. It goes on only when it is polled (`poll`), and it
may be dropped at any point (`drop`), which gives every hold back from the inside out. `await`
moves the timer to each deadline until the call is over.
-/

namespace FaultTolerance.Stack

inductive Suspended (ε ν : Type) where
  /-- The operation sleeps until its deadline, or for ever. -/
  | operating (due : Option Nat) (run : Run ε ν)
  | waiting (w : Wait)
  | within (h : Hold) (inner : Suspended ε ν)

/-- When the timer lets a suspended call go on, if it does. -/
def Suspended.due {ε ν : Type} [Timer] : Suspended ε ν → Option Nat
  | operating due _ => due
  | waiting w => w.due
  | within _ inner => inner.due

/-- A call is over or suspended. -/
abbrev Progress (ε ν : Type) : Type := Ending ε ν ⊕ Suspended ε ν

namespace World

variable {ε ν : Type} [Timer] [Fault ε]

omit [Fault ε] in
/-- The run goes on after its sleep. -/
def afterSleep (w : World ε ν) (run : Run ε ν) : World ε ν × Progress ε ν :=
  if run.stalls then (w, .inr (.operating none run))
  else
    let (w, ending) := w.endRun run
    (w, .inl ending)

omit [Fault ε] in
/-- A run that sleeps until a deadline. -/
def sleepUntil (w : World ε ν) (due : Nat) (run : Run ε ν) : World ε ν × Progress ε ν :=
  if due ≤ w.timer then w.afterSleep run else (w, .inr (.operating (some due) run))

omit [Fault ε] in
/-- A run of the operation begins. -/
def startRun (w : World ε ν) (run : Run ε ν) : World ε ν × Progress ε ν :=
  match run.sleep with
  | none => w.beginRun.afterSleep run
  | some d => w.beginRun.sleepUntil (Timer.wakeAt w.timer d) run

/-- Goes on with what a call inside a layer has come to. The call is sent in again at once if its
wait is over already, `fuel` times at most. -/
def surround (i : Nat) (inner : World ε ν → World ε ν × Progress ε ν) (fuel : Nat) (h : Hold)
    (result : World ε ν × Progress ε ν) : World ε ν × Progress ε ν :=
  let settle (w : World ε ν) (ending : Ending ε ν) (outcome : Except ε ν) :
      World ε ν × Progress ε ν :=
    match w.leave i h outcome with
    | (w, .done) => (w, .inl ending)
    | (w, .broken) => (w, .inl .panicked)
    | (w, .again attempts wait) =>
      let due := Timer.wakeAt w.timer wait
      if due ≤ w.timer then
        match fuel with
        | 0 => (w, .inl ending)
        | fuel + 1 => surround i inner fuel (.attempts attempts) (inner w)
      else (w, .inr (.waiting (.backoff attempts due)))
  match result with
  | (w, .inl (.returned v)) => settle w (.returned v) (.ok v)
  | (w, .inl (.failed e)) => settle w (.failed e) (.error e)
  | (w, .inl .panicked) => (w.abandon i h, .inl .panicked)
  | (w, .inr inner) => (w, .inr (.within h inner))

/-- Goes on with what a layer answers to a call that wants to enter. -/
def proceed (i : Nat) (inner : World ε ν → World ε ν × Progress ε ν) :
    World ε ν × Entry → World ε ν × Progress ε ν
  | (w, .admitted h) => surround i inner (w.patience i) h (inner w)
  | (w, .waiting wait) => (w, .inr (.waiting wait))
  | (w, .refused e) => (w, .inl (.failed (Fault.ofRefusal e)))

/-- Starts a call inside the layers at the given positions, the outermost first. -/
def start (operation : Nat → Run ε ν) : List Nat → World ε ν → World ε ν × Progress ε ν
  | [], w => w.startRun (operation w.runs)
  | i :: inner, w => proceed i (start operation inner) (w.enter i)

/-- Lets a suspended call go on as far as it can. -/
def poll (operation : Nat → Run ε ν) :
    List Nat → Suspended ε ν → World ε ν → World ε ν × Progress ε ν
  | [], .operating (some due) run, w => w.sleepUntil due run
  | i :: inner, .waiting wait, w =>
    proceed i (start operation inner) (w.resumeAt i w.timer wait)
  | i :: inner, .within h suspended, w =>
    surround i (start operation inner) (w.patience i) h (poll operation inner suspended w)
  | _, suspended, w => (w, .inr suspended)

omit [Fault ε] in
/-- Drops a suspended call. -/
def drop : List Nat → Suspended ε ν → World ε ν → World ε ν
  | i :: _, .waiting wait, w => w.cancel i wait
  | i :: inner, .within h suspended, w => (w.drop inner suspended).abandon i h
  | _, _, w => w

omit [Fault ε] in
/-- How often a call is suspended at most. -/
def suspensions (w : World ε ν) : List Nat → Nat
  | [] => 1
  | i :: inner => 1 + (w.patience i + 1) * (w.suspensions inner + 1)

/-- Moves the timer to the next deadline and polls, at most `fuel` times. -/
def awaitWithin (operation : Nat → Run ε ν) (path : List Nat) :
    (fuel : Nat) → World ε ν × Progress ε ν → World ε ν × Progress ε ν
  | 0, result => result
  | _, (w, .inl ending) => (w, .inl ending)
  | fuel + 1, (w, .inr suspended) =>
    match suspended.due with
    | none => (w, .inr suspended)
    | some due =>
      awaitWithin operation path fuel
        (poll operation path suspended { w with timer := max w.timer due })

/-- Starts a call and stays with it until it is over or waits for something that no timer
brings. -/
def callAwaiting (operation : Nat → Run ε ν) (path : List Nat) (w : World ε ν) :
    World ε ν × Progress ε ν :=
  awaitWithin operation path (w.suspensions path) (start operation path w)

end World

end FaultTolerance.Stack
