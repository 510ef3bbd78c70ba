/-!
The fewest decimal digits that read back as a given binary floating-point number.

A finite number is `mantissa * 2 ^ exponent`. The reals that round to it form an interval, whose
ends belong to it when the mantissa is even. For one digit, two digits and so on, the number's two
neighbours on that decimal grid are tried; the first grid with a neighbour inside the interval
wins, and of two neighbours the nearer. All arithmetic is exact.
-/

namespace FaultTolerance.Decimal

/-- The widths of a binary floating-point format. -/
structure Format where
  /-- Bits of the fraction field. -/
  fractionBits : Nat
  /-- Bits of the exponent field. -/
  exponentBits : Nat
  deriving DecidableEq, Repr

def Format.single : Format := ⟨23, 8⟩

def Format.double : Format := ⟨52, 11⟩

/-- What the bits of a floating-point number say. -/
inductive Reading where
  | nan
  | infinite (negative : Bool)
  /-- The number is `mantissa * 2 ^ exponent`; at the `edge` of a binade the gap below it is half
  of the gap above it. -/
  | finite (negative : Bool) (mantissa : Nat) (exponent : Int) (edge : Bool)
  deriving DecidableEq, Repr

/-- Splits a bit pattern into its fields. -/
def Format.read (f : Format) (bits : Nat) : Reading :=
  let fraction := bits % Nat.pow 2 f.fractionBits
  let field := bits / Nat.pow 2 f.fractionBits % Nat.pow 2 f.exponentBits
  let negative := bits / Nat.pow 2 (f.fractionBits + f.exponentBits) % 2 == 1
  let bias : Int := Nat.pow 2 (f.exponentBits - 1) - 1 + f.fractionBits
  if field = Nat.pow 2 f.exponentBits - 1 then
    if fraction = 0 then .infinite negative else .nan
  else if field = 0 then .finite negative fraction (1 - bias) false
  else
    .finite negative (Nat.pow 2 f.fractionBits + fraction) (field - bias)
      (fraction = 0 && 1 < field)

/-- A decimal number `digits * 10 ^ exponent`. -/
structure Digits where
  digits : Nat
  exponent : Int
  deriving DecidableEq, Repr

/-- How many decimal digits a number has; zero has none. -/
def digitCount (n : Nat) : Nat := if n = 0 then 0 else (Nat.toDigits 10 n).length

/-- The number of zeros between the point and the first digit of a fraction below one. -/
def leadingZeros (fuel num den : Nat) : Nat :=
  match fuel with
  | 0 => 0
  | fuel + 1 => if den ≤ num * 10 then 0 else leadingZeros fuel (num * 10) den + 1

/-- Drops zeros at the end. -/
def Digits.trim (fuel : Nat) (d : Digits) : Digits :=
  match fuel with
  | 0 => d
  | fuel + 1 => if d.digits % 10 = 0 then trim fuel ⟨d.digits / 10, d.exponent + 1⟩ else d

/-- A positive number with the ends of its rounding interval, over one denominator. -/
structure Interval where
  low : Nat
  value : Nat
  high : Nat
  denominator : Nat
  closed : Bool

/-- The rounding interval of `mantissa * 2 ^ exponent`. -/
def Interval.of (mantissa : Nat) (exponent : Int) (edge : Bool) : Interval :=
  let scale := Nat.pow 2 (exponent - 2).toNat
  { low := (4 * mantissa - if edge then 1 else 2) * scale
    value := 4 * mantissa * scale
    high := (4 * mantissa + 2) * scale
    denominator := Nat.pow 2 (2 - exponent).toNat
    closed := mantissa % 2 = 0 }

/-- Whether the point `num / den` rounds to the value of the interval. -/
def Interval.contains (i : Interval) (num den : Nat) : Bool :=
  let below := compare (i.low * den) (num * i.denominator)
  let above := compare (num * i.denominator) (i.high * den)
  if i.closed then below.isLE && above.isLE else below.isLT && above.isLT

/-- The better of the two neighbours of the value on the grid `10 ^ exponent`, if one of them
rounds to it. A tie goes to the upper one. -/
def Interval.onGrid (i : Interval) (exponent : Int) : Option Digits :=
  let up := Nat.pow 10 (-exponent).toNat
  let down := Nat.pow 10 exponent.toNat
  let num := i.value * up
  let den := i.denominator * down
  let floor := num / den
  let lowFits := i.contains (floor * down) up
  let highFits := i.contains ((floor + 1) * down) up
  let nearerLow := 2 * (num - floor * den) < den
  match lowFits, highFits with
  | true, true => some ⟨if nearerLow then floor else floor + 1, exponent⟩
  | true, false => some ⟨floor, exponent⟩
  | false, true => some ⟨floor + 1, exponent⟩
  | false, false => none

/-- The power of ten just above the value. -/
def Interval.magnitude (i : Interval) : Int :=
  let whole := i.value / i.denominator
  if whole = 0 then -(leadingZeros 400 i.value i.denominator : Int) else digitCount whole

/-- Tries grids of one more digit each time. -/
def Interval.search (i : Interval) (magnitude : Int) : (fuel digits : Nat) → Digits
  | 0, digits => ⟨0, magnitude - digits⟩
  | fuel + 1, digits =>
    match i.onGrid (magnitude - digits) with
    | some d => d.trim 20
    | none => search i magnitude fuel (digits + 1)

/-- The shortest digits of `mantissa * 2 ^ exponent`. -/
def shortest (mantissa : Nat) (exponent : Int) (edge : Bool) : Digits :=
  if mantissa = 0 then ⟨0, 0⟩
  else
    let i := Interval.of mantissa exponent edge
    i.search i.magnitude 20 1

end FaultTolerance.Decimal
