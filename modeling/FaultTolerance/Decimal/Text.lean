import FaultTolerance.Decimal.Shortest

/-!
The written forms of floating-point numbers.

`Number.plain` never uses an exponent and leaves a whole number without a point. `Number.exact`
marks every number as one with a point (`50.0`) and writes very large and very small ones with an
exponent. `Number.fixed` has a given number of places, and a half goes to the even neighbour.
-/

namespace FaultTolerance.Decimal

/-- A number ready to be written. -/
structure Number where
  reading : Reading
  deriving DecidableEq, Repr

namespace Number

def ofSingle (x : Float32) : Number := ⟨Format.single.read x.toBits.toNat⟩

def ofDouble (x : Float) : Number := ⟨Format.double.read x.toBits.toNat⟩

/-- Whether a number is zero, of either sign. -/
def isZero (n : Number) : Bool :=
  match n.reading with
  | .finite _ m .. => m = 0
  | _ => false

/-- Writes decimal digits without an exponent. -/
def positional (d : Digits) : String :=
  let text := toString d.digits
  if 0 ≤ d.exponent then text ++ "".pushn '0' d.exponent.toNat
  else
    let places := (-d.exponent).toNat
    let padded := ("".pushn '0' (places + 1 - text.length)) ++ text
    let whole := padded.length - places
    String.ofList (padded.toList.take whole) ++ "." ++ String.ofList (padded.toList.drop whole)

/-- Writes decimal digits with one digit before the point and an exponent. -/
def scientific (d : Digits) : String :=
  let text := toString d.digits
  let rest := String.ofList (text.toList.drop 1)
  let head := String.ofList (text.toList.take 1)
  let exponent := d.exponent + (text.length - 1 : Nat)
  head ++ (if rest.isEmpty then "" else "." ++ rest) ++ "e" ++ toString exponent

def signed (negative : Bool) (text : String) : String := if negative then "-" ++ text else text

/-- The shortest text without an exponent. -/
def plain (n : Number) : String :=
  match n.reading with
  | .nan => "NaN"
  | .infinite negative => signed negative "inf"
  | .finite negative m e edge => signed negative (positional (shortest m e edge))

/-- Adds a zero place to a whole number. -/
def pointed (d : Digits) : String :=
  if 0 ≤ d.exponent then positional d ++ ".0" else positional d

/-- Whether a number is written with an exponent: from `10 ^ 16` up and below `10 ^ -4`. -/
def wantsExponent (d : Digits) : Bool :=
  let magnitude := d.exponent + digitCount d.digits
  d.digits != 0 && (16 < magnitude || magnitude < -3)

/-- The shortest text that always shows a point or an exponent. -/
def exact (n : Number) : String :=
  match n.reading with
  | .nan => "NaN"
  | .infinite negative => signed negative "inf"
  | .finite negative m e edge =>
    let d := shortest m e edge
    signed negative (if wantsExponent d then scientific d else pointed d)

/-- The nearest whole number to a quotient; a half goes to the even neighbour. -/
def roundDiv (num den : Nat) : Nat :=
  let floor := num / den
  match compare (2 * (num % den)) den with
  | .lt => floor
  | .gt => floor + 1
  | .eq => if floor % 2 = 0 then floor else floor + 1

/-- The text with exactly `places` digits after the point. -/
def fixed (n : Number) (places : Nat) : String :=
  match n.reading with
  | .nan => "NaN"
  | .infinite negative => signed negative "inf"
  | .finite negative m e _ =>
    let scaled := roundDiv (m * Nat.pow 10 places * Nat.pow 2 e.toNat) (Nat.pow 2 (-e).toNat)
    signed negative (positional ⟨scaled, -(places : Int)⟩)

end Number

end FaultTolerance.Decimal
