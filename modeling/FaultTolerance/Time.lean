/-!
Durations and clock readings, both in whole nanoseconds.

A duration may be longer than the clock can show. The clock is a 64-bit counter: whatever is
compared with a reading is first cut to its range (`Duration.ticks`), and sums of readings stop
at the last tick instead of wrapping.
-/

namespace FaultTolerance

/-- The greatest reading of the nanosecond counter. -/
def lastTick : Nat := 0xFFFFFFFFFFFFFFFF

/-- Adds two readings and stops at the last tick. -/
def addTicks (a b : Nat) : Nat := min (a + b) lastTick

/-- Multiplies a count by a reading and stops at the last tick. -/
def mulTicks (a b : Nat) : Nat := min (a * b) lastTick

theorem addTicks_le (a b : Nat) : addTicks a b ≤ lastTick := Nat.min_le_right ..

/-- A span of time. -/
structure Duration where
  nanos : Nat
  deriving DecidableEq, Repr, Inhabited

namespace Duration

def zero : Duration := ⟨0⟩

def ofMillis (n : Nat) : Duration := ⟨n * 1000000⟩

def ofSeconds (n : Nat) : Duration := ⟨n * 1000000000⟩

/-- The longest duration there is: all seconds of a 64-bit count and all but one nanosecond. -/
def longest : Duration := ⟨lastTick * 1000000000 + 999999999⟩

/-- The duration as a number of clock ticks, cut to what the clock can show. -/
def ticks (d : Duration) : Nat := min d.nanos lastTick

/-- The shorter of two durations. -/
def shorter (a b : Duration) : Duration := if a.nanos ≤ b.nanos then a else b

end Duration

/-- Whole seconds of a reading. -/
def secondsOf (reading : Nat) : Nat := reading / 1000000000

/-- The timer that suspended callers sleep on. It runs beside the clock, and how finely it tells the
time is its own matter. -/
class Timer where
  /-- When a sleep ends that begins at a reading. -/
  wakeAt : Nat → Duration → Nat
  /-- From which reading on a deadline counts as passed. -/
  expiry : Nat → Nat
  /-- The first reading that cannot be told. -/
  range : Nat
  range_pos : 0 < range
  /-- No deadline counts as passed before it has been reached. -/
  le_expiry (deadline : Nat) : deadline ≤ expiry deadline

namespace Timer

/-- The next whole millisecond. -/
def roundUp (reading : Nat) : Nat := (reading + 999999) / 1000000 * 1000000

theorem le_roundUp (reading : Nat) : reading ≤ roundUp reading := by
  unfold roundUp
  omega

/-- The longest sleep that a timer is set to, thirty years. -/
def longestSleep : Duration := .ofSeconds (30 * 365 * 86400)

/-- A timer that goes off at whole milliseconds. Its seconds are a signed 64-bit count. -/
instance whole : Timer where
  wakeAt since wait := roundUp (since + (wait.shorter longestSleep).nanos)
  expiry := roundUp
  range := 0x8000000000000000 * 1000000000
  range_pos := by decide
  le_expiry := le_roundUp

end Timer

/-- A clock that moves only when it is told to. -/
structure Clock where
  reading : Nat := 0
  deriving DecidableEq, Repr, Inhabited

namespace Clock

/-- Moves the clock forward. The counter wraps past its last tick. -/
def advance (c : Clock) (step : Duration) : Clock := ⟨(c.reading + step.ticks) % (lastTick + 1)⟩

/-- Raises the clock to a reading. It never goes back. -/
def raise (c : Clock) (reading : Duration) : Clock := ⟨max c.reading reading.ticks⟩

end Clock

end FaultTolerance
