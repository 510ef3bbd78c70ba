import FaultTolerance.Window.Outcome

/-!
The calls of the last seconds, counted second by second.

There is one bucket for each second of the window, in a circle. Buckets are not cleared by a
timer: whoever looks at the window first turns it forward to the current second (`turnTo`), which
takes every second that has left the window out of the totals. A clock that goes back turns
nothing.
-/

namespace FaultTolerance

/-- The calls of one second. -/
structure Bucket where
  second : Nat
  totals : Totals := {}
  deriving DecidableEq, Repr, Inhabited

structure TimedWindow where
  buckets : Array Bucket
  /-- The bucket of the latest second. -/
  head : Nat := 0
  total : Totals := {}
  deriving Repr

namespace TimedWindow

/-- A window whose buckets all stand at the current second. -/
def empty (size second : Nat) : TimedWindow := { buckets := Array.replicate size { second } }

/-- The latest second that the window has seen. -/
def latest (w : TimedWindow) : Nat := (w.buckets.getD w.head default).second

/-- Reuses the next bucket of the circle for a second. -/
def reuse (w : TimedWindow) (second : Nat) : TimedWindow :=
  let head := (w.head + 1) % w.buckets.size
  let expired := w.buckets.getD head default
  { buckets := w.buckets.setIfInBounds head { second }
    head
    total := w.total.remove expired.totals }

/-- Reuses a bucket for each of the last `count` seconds up to `second`. -/
def turn (second : Nat) : (count : Nat) → TimedWindow → TimedWindow
  | 0, w => w
  | count + 1, w => turn second count (w.reuse (second - count))

/-- Turns the window forward to a second; a gap longer than the window empties it. -/
def turnTo (w : TimedWindow) (second : Nat) : TimedWindow :=
  turn second (min (second - w.latest) w.buckets.size) w

def record (w : TimedWindow) (second : Nat) (m : Measurement) : TimedWindow :=
  let w := w.turnTo second
  { w with
    buckets := w.buckets.modify w.head fun b => { b with totals := b.totals.record m }
    total := w.total.record m }

/-- Adds the buckets up anew. -/
def recount (w : TimedWindow) : Totals := .sum (w.buckets.toList.map (·.totals))

def reset (w : TimedWindow) (second : Nat) : TimedWindow := empty w.buckets.size second

end TimedWindow

end FaultTolerance
