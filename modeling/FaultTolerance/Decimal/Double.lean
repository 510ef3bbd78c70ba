import FaultTolerance.Decimal.Shortest
import FaultTolerance.Text.Scan

/-!
The double nearest to a decimal number, and the texts that stand for doubles. Exponents far outside
the range of doubles are decided without computing their power of ten.
-/

namespace FaultTolerance.Decimal

/-- The nearest double to `digits * 10 ^ exponent`; infinite above the range. -/
def Digits.toDouble (d : Digits) : Float :=
  let magnitude := d.exponent + digitCount d.digits
  if d.digits = 0 || magnitude < -400 then 0.0
  else if 400 < magnitude then 1.0 / 0.0
  else Float.ofScientific d.digits (d.exponent < 0) d.exponent.natAbs

/-- Takes a sign off; a missing one is a plus. -/
def afterSign : List Char → Bool × List Char
  | '-' :: text => (true, text)
  | '+' :: text => (false, text)
  | text => (false, text)

/-- The value of an exponent, or zero for no text at all. -/
def exponentOfText? : List Char → Option Int
  | [] => some 0
  | c :: text =>
    let (negative, digits) := afterSign text
    if (c = 'e' || c = 'E') && !digits.isEmpty && digits.all Char.isDigit then
      let n : Int := Text.ofDigits 10 digits
      some (if negative then -n else n)
    else none

/-- Reads a double without a sign: a word for no number or for infinity, in letters of either case,
or digits that may have a point anywhere, with an exponent or without. -/
def unsignedDouble? (text : List Char) : Option Float :=
  let word := String.ofList (text.map Char.toLower)
  if word = "nan" then some (0.0 / 0.0)
  else if word = "inf" || word = "infinity" then some (1.0 / 0.0)
  else
    let whole := text.takeWhile Char.isDigit
    let rest := text.drop whole.length
    let places := if rest.head? = some '.' then (rest.drop 1).takeWhile Char.isDigit else []
    let rest := if rest.head? = some '.' then rest.drop (1 + places.length) else rest
    if whole.isEmpty && places.isEmpty then none
    else
      (exponentOfText? rest).map fun exponent =>
        Digits.toDouble ⟨Text.ofDigits 10 (whole ++ places), exponent - places.length⟩

/-- Reads a double with a sign or without. -/
def doubleOfText? (text : List Char) : Option Float :=
  let (negative, text) := afterSign text
  (unsignedDouble? text).map fun x => if negative then -x else x

end FaultTolerance.Decimal
