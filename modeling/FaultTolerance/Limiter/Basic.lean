import FaultTolerance.Limiter.Config

/-!
A rate limiter.

Time is cut into cycles of the refresh period, and each cycle brings `limitForPeriod` permissions,
which do not pile up. A caller that cannot be served in the current cycle books permissions of a
coming one, which drives the count below zero, as long as the wait for that cycle fits its timeout.
With `available` permissions left, `n` permissions take no wait if `n ≤ available`, and otherwise
the rest of this cycle and one whole cycle for every further limit that is still missing.

Cycles are not started by a timer: every request first brings the stored state up to the current
cycle.
-/

namespace FaultTolerance

structure Limiter where
  name : String
  config : Limiter.Config
  /-- The clock reading at which cycle zero began. -/
  origin : Nat
  cycle : Nat := 0
  /-- Permissions left in the cycle; below zero, coming cycles are booked. -/
  permissions : Int
  /-- The wait that the latest request was told. -/
  wait : Nat := 0
  /-- Callers that sleep on a request. -/
  waiting : Nat := 0
  deriving DecidableEq, Repr

namespace Limiter

/-- The bound of the permission count on either side. -/
def countLimit : Int := 0x8000000000000000

/-- Cuts a count to its range. -/
def clampCount (n : Int) : Int := max (-countLimit) (min n (countLimit - 1))

def new (name : String) (config : Config) (now : Nat) : Except Error Limiter := do
  config.validate
  return { name, config, origin := now, permissions := config.limitForPeriod }

/-! ### Cycles -/

/-- The time since cycle zero began. -/
def age (l : Limiter) (now : Nat) : Nat := now - l.origin

/-- The cycle that the clock is in. -/
def currentCycle (l : Limiter) (now : Nat) : Nat := l.age now / l.config.period

/-- What so many cycles bring. -/
def refill (cycles limit : Nat) : Int :=
  clampCount ((min (cycles : Int) (countLimit - 1)) * limit)

/-- Brings the state up to the current cycle. -/
def rollOver (l : Limiter) (now : Nat) : Limiter :=
  if l.cycle < l.currentCycle now then
    { l with
      cycle := l.currentCycle now
      permissions :=
        min (clampCount (l.permissions
          + refill (l.currentCycle now - l.cycle) l.config.limitForPeriod))
          l.config.limitForPeriod }
  else l

/-- Whole cycles to wait beyond the next boundary for permissions that are still missing then. -/
def fullCycles (missing : Int) (limit : Nat) : Nat := (missing.toNat + (limit - 1)) / limit

/-- The ticks until the cycle after the stored one begins. -/
def untilNextCycle (l : Limiter) (now : Nat) : Nat :=
  mulTicks (addTicks l.cycle 1) l.config.period - l.age now

/-- The ticks until `permits` permissions exist, for a state that is up to date. -/
def waitFor (l : Limiter) (now permits : Nat) : Nat :=
  if (permits : Int) ≤ l.permissions then 0
  else
    let missing := permits - (l.permissions + l.config.limitForPeriod)
    addTicks (mulTicks (fullCycles missing l.config.limitForPeriod) l.config.period)
      (l.untilNextCycle now)

/-- The state after a request, which takes its permissions if their wait fits the timeout. -/
def next (l : Limiter) (now permits timeout : Nat) : Limiter :=
  let l := l.rollOver now
  let wait := l.waitFor now permits
  { l with
    wait
    permissions := if wait ≤ timeout then l.permissions - permits else l.permissions }

/-! ### Requests -/

/-- The answer to a request. -/
inductive Decision where
  | ready
  /-- Permitted after a wait. -/
  | later (wait : Duration)
  /-- Refused, after the caller has waited for the whole timeout. -/
  | refused (timeout : Duration)
  deriving DecidableEq, Repr

/-- How long the caller waits for its answer. -/
def Decision.wait : Decision → Duration
  | ready => .zero
  | later wait => wait
  | refused timeout => timeout

def Decision.isGranted : Decision → Bool
  | refused _ => false
  | _ => true

/-- Asks for permissions within the configured timeout. -/
def request (l : Limiter) (now permits : Nat) : Limiter × List Event × Decision :=
  let timeout := l.config.timeout
  let l := l.next now permits timeout.ticks
  if l.wait = 0 then (l, [.successfulAcquire permits], .ready)
  else if l.wait ≤ timeout.ticks then (l, [.successfulAcquire permits], .later ⟨l.wait⟩)
  else (l, [.failedAcquire permits], .refused timeout)

/-- Books permissions without waiting and answers how long the caller has to wait. -/
def reserve (l : Limiter) (now permits : Nat) : Limiter × List Event × Option Duration :=
  match l.request now permits with
  | (l, events, .ready) => (l, events, some .zero)
  | (l, events, .later wait) => (l, events, some wait)
  | (l, events, .refused _) => (l, events, none)

def refusal (l : Limiter) : Error := .requestNotPermitted l.name

/-- Throws away what is left of the current cycle. What is booked ahead stays booked. -/
def drain (l : Limiter) (now : Nat) : Limiter × List Event :=
  let l := l.next now 0 0
  ({ l with permissions := min l.permissions 0, wait := 0 }, [.drained (max l.permissions 0)])

/-- Puts a new configuration in the place of the old one, and nothing else. -/
def configure (l : Limiter) (config : Config) : Except Error Limiter := do
  config.validate
  return { l with config }

/-- Changes the permissions per period from the next refill on. -/
def changeLimit (l : Limiter) (limit : Nat) : Except Error Limiter :=
  l.configure { l.config with limitForPeriod := limit }

def changeTimeout (l : Limiter) (timeout : Duration) : Except Error Limiter :=
  l.configure { l.config with timeout }

/-! ### Waiting callers -/

/-- A caller that sleeps on its request. -/
structure Pending where
  permits : Nat
  /-- Whether the request was granted; if not, the caller sleeps out its timeout. -/
  granted : Bool
  /-- When the timer wakes it. -/
  due : Nat
  deriving DecidableEq, Repr

/-- A request whose caller sleeps on the timer. It is over at once or waits. -/
def start [Timer] (l : Limiter) (now timer permits : Nat) :
    Limiter × List Event × (Bool ⊕ Pending) :=
  let sleep (l : Limiter) (granted : Bool) (d : Duration) : Limiter × (Bool ⊕ Pending) :=
    if d.nanos = 0 then (l, .inl granted)
    else ({ l with waiting := l.waiting + 1 }, .inr ⟨permits, granted, Timer.wakeAt timer d⟩)
  match l.request now permits with
  | (l, events, .ready) => (l, events, .inl true)
  | (l, events, .later wait) =>
    let (l, answer) := sleep l true wait
    (l, events, answer)
  | (l, events, .refused timeout) =>
    let (l, answer) := sleep l false timeout
    (l, events, answer)

/-- Looks whether a sleeping caller has woken up. -/
def Pending.poll (p : Pending) (l : Limiter) (timer : Nat) : Limiter × (Bool ⊕ Pending) :=
  if p.due ≤ timer then ({ l with waiting := l.waiting - 1 }, .inl p.granted) else (l, .inr p)

/-- Gives permissions back, up to one full cycle. -/
def refund (l : Limiter) (permits : Nat) : Limiter :=
  { l with permissions := min (l.permissions + permits) l.config.limitForPeriod }

/-- Takes a sleeping caller off. A granted request gives its permissions back. -/
def Pending.cancel (p : Pending) (l : Limiter) : Limiter :=
  let l := { l with waiting := l.waiting - 1 }
  if p.granted then l.refund p.permits else l

/-! ### Views -/

structure Metrics where
  available : Int
  waiting : Nat
  wait : Nat
  cycle : Nat
  deriving DecidableEq, Repr

/-- The limiter as it is seen now. Nothing is stored. -/
def metrics (l : Limiter) (now : Nat) : Metrics :=
  let current := l.rollOver now
  { available := current.permissions, waiting := l.waiting, wait := l.wait, cycle := current.cycle }

def describe (l : Limiter) : String :=
  Text.record "RateLimiter"
    [("name", Text.quoted l.name), ("config", l.config.describe),
      ("permissions", toString l.permissions)]

end Limiter

end FaultTolerance
