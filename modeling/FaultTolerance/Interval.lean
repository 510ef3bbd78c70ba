import FaultTolerance.Error

/-!
Waits that depend on how many attempts came before.

An interval maps the number of an attempt, counted from one, to the wait after it, and carries the
text that describes it. A randomised interval needs a draw, between zero and one, each time it is
asked. Whoever asks brings the draw along: an instance holds those that it has still to use
(`Draws`).
-/

namespace FaultTolerance

/-- Numbers between zero and one that are still to be drawn, the next one first. -/
def Draws : Type := Nat → Float

namespace Draws

/-- Draws that all lie in the middle. -/
def middle : Draws := fun _ => 0.5

/-- The next draw. -/
def next (d : Draws) : Float := d 0

/-- What is left when so many have been drawn. -/
def drop (d : Draws) (count : Nat) : Draws := fun n => d (count + n)

/-- One draw and then the others. -/
def cons (draw : Float) (rest : Draws) : Draws
  | 0 => draw
  | n + 1 => rest n

theorem drop_cons (draw : Float) (rest : Draws) : (cons draw rest).drop 1 = rest :=
  funext fun n => congrArg (cons draw rest) (Nat.add_comm 1 n)

theorem drop_zero (d : Draws) : d.drop 0 = d := funext fun n => congrArg d (Nat.zero_add n)

theorem next_drop (d : Draws) (count : Nat) : (d.drop count).next = d count := rfl

theorem drop_drop (d : Draws) (first rest : Nat) :
    (d.drop first).drop rest = d.drop (first + rest) :=
  funext fun n => congrArg d (Nat.add_assoc first rest n).symm

end Draws

structure Interval where
  description : String
  /-- The wait after an attempt at a draw; `wait` is the public reading. -/
  table : Nat → Float → Duration

namespace Interval

/-- The wait after the given attempt; attempt zero counts as the first. -/
def wait (i : Interval) (attempt : Nat) (draw : Float := Draws.middle.next) : Duration :=
  i.table (max attempt 1) draw

def describe (i : Interval) : String :=
  Text.wrapped "IntervalFunction" (Text.quoted i.description)

/-- An interval with waits of its own. Nothing is drawn for it. -/
def custom (name : String) (table : Nat → Duration) : Interval :=
  ⟨name, fun attempt _ => table attempt⟩

/-- The same wait after every attempt. -/
def fixed (d : Duration) : Interval :=
  custom (Text.wrapped "fixed" (Text.duration d)) fun _ => d

/-- A power by repeated squaring, lowest bit of the exponent first. -/
def power (base : Float) (exponent : Nat) : Float :=
  go 32 base exponent 1
where
  go : Nat → Float → Nat → Float → Float
    | 0, _, _, result => result
    | fuel + 1, base, exponent, result =>
      let result := if exponent % 2 = 1 then result * base else result
      if exponent / 2 = 0 then result else go fuel (base * base) (exponent / 2) result

/-- Nanoseconds as a duration; what is not finite or too large becomes the last tick. -/
def ofNanos (nanos : Float) : Duration :=
  if !nanos.isFinite || nanos >= Float.ofNat (lastTick + 1) then ⟨lastTick⟩
  else ⟨nanos.toUInt64.toNat⟩

/-- The first wait, multiplied once for each further attempt. -/
def growing (initial : Duration) (multiplier : Float) (attempt : Nat) : Duration :=
  ofNanos (Float.ofNat initial.nanos * power multiplier (min (attempt - 1) 0x7FFFFFFF))

/-- The least and the greatest wait of a randomised interval, in nanoseconds. -/
def spread (d : Duration) (factor : Float) : Float × Float :=
  let nanos := Float.ofNat d.nanos
  (nanos - nanos * factor, nanos + nanos * factor)

/-- A wait within `factor` of the given one, at the place that the draw says. -/
def jittered (d : Duration) (factor draw : Float) : Duration :=
  if factor == 0.0 then d
  else
    let (low, high) := spread d factor
    let nanos := low + draw * (high - low)
    ⟨(if nanos > 0.0 then nanos else 0.0).toUInt64.toNat⟩

def checkInterval (d : Duration) : Except Error Unit :=
  if d.nanos < (Duration.ofMillis 1).nanos then
    .error (.invalidConfig ("interval must be at least 1ms, got " ++ Text.duration d))
  else .ok ()

/-- A number in a message, without an exponent. -/
def plainText (x : Float) : String := (Decimal.Number.ofDouble x).plain

def checkMultiplier (x : Float) : Except Error Unit :=
  if x.isFinite && x >= 1.0 then .ok ()
  else .error (.invalidConfig ("multiplier must be >= 1.0, got " ++ plainText x))

def checkRandomization (x : Float) : Except Error Unit :=
  if x >= 0.0 && x < 1.0 then .ok ()
  else .error (.invalidConfig ("randomization factor must be in [0, 1), got " ++ plainText x))

/-- Waits that grow by a factor and stop at `longest`. -/
def exponential (initial : Duration) (multiplier : Float)
    (longest : Duration := Duration.longest) : Except Error Interval := do
  checkInterval initial
  checkMultiplier multiplier
  return custom
    ("exponential(" ++ Text.duration initial ++ ", x" ++ plainText multiplier ++ ", max "
      ++ Text.duration longest ++ ")")
    fun attempt => (growing initial multiplier attempt).shorter longest

/-- Waits drawn from around one duration. -/
def randomized (d : Duration) (factor : Float) : Except Error Interval := do
  checkInterval d
  checkRandomization factor
  return {
    description := "randomized(" ++ Text.duration d ++ ", ±" ++ plainText factor ++ ")"
    table := fun _ draw => jittered d factor draw }

/-- Growing waits, each drawn from around its value and stopped at `longest`. -/
def exponentialRandomized (initial : Duration) (multiplier factor : Float) (longest : Duration) :
    Except Error Interval := do
  checkInterval initial
  checkMultiplier multiplier
  checkRandomization factor
  return {
    description :=
      "exponential_randomized(" ++ Text.duration initial ++ ", x" ++ plainText multiplier ++ ", ±"
        ++ plainText factor ++ ", max " ++ Text.duration longest ++ ")"
    table := fun attempt draw =>
      (jittered (growing initial multiplier attempt) factor draw).shorter longest }

/-- Half a second after every attempt. -/
def standard : Interval := fixed (Duration.ofMillis 500)

end Interval

end FaultTolerance
