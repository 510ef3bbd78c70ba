/-!
Steps of reading a text from its front. A step takes what it wants off the list of characters that
are left and answers the rest of them, or nothing when the text does not go on as it should.
-/

namespace FaultTolerance.Text

/-- What a letter or digit counts for as a digit; other characters count for no digit. -/
def digitValue (c : Char) : Nat :=
  if c.isDigit then c.toNat - '0'.toNat
  else if 'a' ≤ c && c ≤ 'z' then c.toNat - 'a'.toNat + 10
  else if 'A' ≤ c && c ≤ 'Z' then c.toNat - 'A'.toNat + 10
  else 36

def isDigitOf (base : Nat) (c : Char) : Bool := digitValue c < base

/-- The number that a row of digits stands for. -/
def ofDigits (base : Nat) (cs : List Char) : Nat :=
  cs.foldl (fun n c => n * base + digitValue c) 0

/-- The rest after a given beginning. -/
def after? : (beginning text : List Char) → Option (List Char)
  | [], text => some text
  | b :: beginning, c :: text => if b = c then after? beginning text else none
  | _ :: _, [] => none

/-- A number of exactly `count` hexadecimal digits. -/
def hexCode? (count : Nat) (text : List Char) : Option (Nat × List Char) :=
  let code := text.take count
  if code.length = count && code.all (isDigitOf 16) then
    some (ofDigits 16 code, text.drop count)
  else none

/-- The character of a code point, if it is one. -/
def charOf? (code : Nat) : Option Char := if code.isValidChar then some (Char.ofNat code) else none

end FaultTolerance.Text
