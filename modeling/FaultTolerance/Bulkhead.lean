import FaultTolerance.Validation
import FaultTolerance.Publisher

/-!
A bulkhead: at most so many calls at once.

The counter `available` is the limit less the permits that are out. It is a signed 64-bit word: a
limit beyond its range reads as a negative number. After the limit has shrunk below the calls that
are running the counter is negative until enough of them have finished. A new limit that would take
the counter out of its range is not taken over.
-/

namespace FaultTolerance

namespace Bulkhead

structure Config where
  maxConcurrentCalls : Nat := 25
  /-- How long a caller waits for a permit. -/
  maxWait : Duration := .zero
  deriving DecidableEq, Repr, Inhabited

namespace Config

def validate (c : Config) : Except Error Unit :=
  require (c.maxConcurrentCalls != 0) "max_concurrent_calls must be greater than 0"

def describe (c : Config) : String :=
  Text.record "BulkheadConfig"
    [("max_concurrent_calls", toString c.maxConcurrentCalls),
      ("max_wait_duration", Text.duration c.maxWait)]

end Config

inductive Event where
  | callPermitted
  | callRejected
  | callFinished
  deriving DecidableEq, Repr

namespace Event

def kind : Event → String
  | callPermitted => "CALL_PERMITTED"
  | callRejected => "CALL_REJECTED"
  | callFinished => "CALL_FINISHED"

def describe : Event → String
  | callPermitted => "CallPermitted"
  | callRejected => "CallRejected"
  | callFinished => "CallFinished"

end Event

instance : Reported Event := ⟨Event.kind, Event.describe⟩

/-- A limit as the counter sees it: a 64-bit word that is read as a signed number. -/
def Config.capacity (c : Config) : Int := Int.bmod c.maxConcurrentCalls 0x10000000000000000

/-- Whether a number fits the counter. -/
def fits (n : Int) : Bool := -0x8000000000000000 ≤ n && n < 0x8000000000000000

/-- Why a bulkhead cannot be changed. -/
inductive Obstacle where
  | invalid (e : Error)
  /-- The counter would leave its range. -/
  | overflow
  deriving DecidableEq, Repr

end Bulkhead

structure Bulkhead where
  name : String
  config : Bulkhead.Config
  available : Int
  deriving DecidableEq, Repr

namespace Bulkhead

def new (name : String) (config : Config) : Except Error Bulkhead := do
  config.validate
  return { name, config, available := config.capacity }

/-! ### Permits -/

/-- Takes a permit if one is free. -/
def take? (b : Bulkhead) : Option Bulkhead :=
  if 0 < b.available then some { b with available := b.available - 1 } else none

/-- Takes a permit now or reports the rejection. -/
def tryAcquire (b : Bulkhead) : Bulkhead × List Event × Bool :=
  match b.take? with
  | some b => (b, [.callPermitted], true)
  | none => (b, [.callRejected], false)

/-- Gives a permit back. Nothing is given back beyond the limit. -/
def release (b : Bulkhead) : Bulkhead :=
  if b.config.capacity ≤ b.available then b else { b with available := b.available + 1 }

/-- Gives the permit of a finished call back. -/
def complete (b : Bulkhead) : Bulkhead × List Event := (b.release, [.callFinished])

/-- The error of a rejected call, by the limit in force now. -/
def refusal (b : Bulkhead) : Error := .bulkheadFull b.name b.config.maxConcurrentCalls

/-- Changes the limit and the wait. Running calls keep their permits. -/
def configure (b : Bulkhead) (config : Config) : Except Obstacle Bulkhead := do
  config.validate.mapError .invalid
  let growth := config.capacity - b.config.capacity
  let available := b.available + growth
  if fits growth && fits available then return { b with config, available }
  throw .overflow

/-! ### Waiting callers -/

/-- A caller that waits for a permit; without a deadline it waits for ever. -/
structure Waiter where
  deadline : Option Nat
  deriving DecidableEq, Repr

section Timed
variable [Timer]

/-- When a caller that comes now gives up. A wait past the timer's range has no deadline; no wait
at all is never past it. -/
def deadlineAt (b : Bulkhead) (timer : Nat) : Option Nat :=
  if b.config.maxWait = .zero || timer + b.config.maxWait.nanos < Timer.range then
    some (timer + b.config.maxWait.nanos)
  else none

/-- Looks whether a waiter can be served or has to give up. -/
def Waiter.poll (w : Waiter) (b : Bulkhead) (timer : Nat) :
    Bulkhead × List Event × (Bool ⊕ Waiter) :=
  match b.take? with
  | some b => (b, [.callPermitted], .inl true)
  | none =>
    if w.deadline.any (Timer.expiry · ≤ timer) then (b, [.callRejected], .inl false)
    else (b, [], .inr w)

/-- A caller that comes for a permit and may wait on the timer. -/
def start (b : Bulkhead) (timer : Nat) : Bulkhead × List Event × (Bool ⊕ Waiter) :=
  Waiter.poll ⟨b.deadlineAt timer⟩ b timer

/-- A caller that blocks its thread for a permit while nobody else acts, with the time that it
sleeps. Who finds no permit sleeps until its deadline and is rejected then. A wait without a
deadline would never end; it is cut off. -/
def acquire (b : Bulkhead) (timer : Nat) : Bulkhead × List Event × Bool × Duration :=
  match b.tryAcquire with
  | (b, events, true) => (b, events, true, .zero)
  | (m, events, false) =>
    if (b.deadlineAt timer).isSome then (m, events, false, b.config.maxWait)
    else (b, [], false, .zero)

end Timed

/-! ### Views -/

structure Metrics where
  available : Nat
  limit : Nat
  deriving DecidableEq, Repr

def metrics (b : Bulkhead) : Metrics := ⟨b.available.toNat, b.config.maxConcurrentCalls⟩

def describe (b : Bulkhead) : String :=
  Text.record "Bulkhead"
    [("name", Text.quoted b.name),
      ("permits", Text.record "Permits"
        [("available", toString b.available), ("config", b.config.describe)])]

/-- The text of a held permit. -/
def describePermit (b : Bulkhead) : String :=
  Text.wrapped "BulkheadPermit" (Text.quoted b.name)

end Bulkhead

end FaultTolerance
