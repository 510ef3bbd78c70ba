import FaultTolerance.Decimal.Double
import FaultTolerance.Text.Scan
import FaultTolerance.Toml.Value

/-!
Values that are a single unquoted word: numbers, truth values, dates and times.

Digits may be separated by single underscores. A decimal number has no zero in front, an integer
in another base no sign. An integer with underscores is not looked into any further, and a float
may be out of range; they have no value then.
-/

namespace FaultTolerance.Toml

open Text (isDigitOf ofDigits after?)
open Decimal (afterSign)

/-! ### Numbers -/

/-- Whether each underscore of a word stands between two digits. -/
def hasTidyUnderscores (isDigit : Char → Bool) (word : List Char) : Bool :=
  let pieces := ((String.ofList word).splitOn "_").map String.toList
  pieces.tail.all (·.head?.any isDigit) && pieces.dropLast.all (·.getLast?.any isDigit)

def withoutUnderscores (word : List Char) : List Char := word.filter (· != '_')

def signed (negative : Bool) (n : Nat) : Int := if negative then -n else n

/-- Splits off the mark of a base other than ten. -/
def baseOf? : List Char → Option (Nat × List Char)
  | '0' :: 'x' :: digits => some (16, digits)
  | '0' :: 'o' :: digits => some (8, digits)
  | '0' :: 'b' :: digits => some (2, digits)
  | _ => none

/-- The value of a row of digits, if it has any. -/
def rowValue? (base : Nat) (digits : List Char) : Option Nat :=
  if !digits.isEmpty && digits.all (isDigitOf base) then some (ofDigits base digits) else none

/-- An integer in another base, without its mark. -/
def integerInBase? (base : Nat) (digits : List Char) : Option Value :=
  if digits.all (fun c => c = '_' || isDigitOf base c) &&
      hasTidyUnderscores (isDigitOf 16) digits then
    some (.integer ((rowValue? base (withoutUnderscores digits)).map Int.ofNat))
  else none

/-- A decimal integer. -/
def integer? (word : List Char) : Option Value :=
  let number := (afterSign word).2
  if number.isEmpty || (number.head? = some '0' && 1 < number.length) ||
      !hasTidyUnderscores (isDigitOf 16) word then none
  else
    let (negative, digits) := afterSign (withoutUnderscores word)
    some (.integer ((rowValue? 10 digits).map (signed negative)))

/-- The digits at the front and the rest after them. At least one digit is there, and there is no
zero before others unless that is allowed. -/
def digits? (leadingZero : Bool) (text : List Char) : Option (List Char × List Char) :=
  let row := text.takeWhile fun c => c.isDigit || c = '_'
  let digits := withoutUnderscores row
  if digits.isEmpty || (!leadingZero && row.head? = some '0' && 1 < digits.length) then none
  else some (digits, text.drop row.length)

/-- The digits of a fraction, if there is one. -/
def fraction? : List Char → Option (List Char × List Char)
  | '.' :: text => digits? true text
  | text => some ([], text)

/-- The value of an exponent, if there is one. -/
def exponent? : List Char → Option (Int × List Char)
  | 'e' :: text | 'E' :: text =>
    let (negative, text) := afterSign text
    (digits? true text).map fun (digits, rest) => (signed negative (ofDigits 10 digits), rest)
  | text => some (0, text)

/-- A float with a fraction, an exponent or both. -/
def float? (word : List Char) : Option Value := do
  let (negative, number) := afterSign word
  let (whole, rest) ← digits? false number
  let (places, rest) ← fraction? rest
  let (exponent, rest) ← exponent? rest
  if !rest.isEmpty || !hasTidyUnderscores Char.isDigit word then none
  let x := Decimal.Digits.toDouble ⟨ofDigits 10 (whole ++ places), exponent - places.length⟩
  return .float (if x.isInf then none else some (if negative then -x else x))

/-! ### Dates and times -/

/-- A number of exactly `count` digits in a range. -/
def field? (count low high : Nat) (word : List Char) : Option (Nat × List Char) :=
  let digits := word.take count
  if digits.length = count && digits.all Char.isDigit && low ≤ ofDigits 10 digits &&
      ofDigits 10 digits ≤ high then
    some (ofDigits 10 digits, word.drop count)
  else none

def daysIn (year month : Nat) : Nat :=
  if month = 2 then
    if year % 4 = 0 && (year % 100 ≠ 0 || year % 400 = 0) then 29 else 28
  else if [4, 6, 9, 11].contains month then 30
  else 31

/-- The rest after a date. -/
def afterDate? (word : List Char) : Option (List Char) := do
  let (year, word) ← field? 4 0 9999 word
  let (month, word) ← field? 2 1 12 (← after? ['-'] word)
  let (_, word) ← field? 2 1 (daysIn year month) (← after? ['-'] word)
  return word

/-- The rest after hours and minutes. -/
def afterMinutes? (word : List Char) : Option (List Char) := do
  let (_, word) ← field? 2 0 23 word
  let (_, word) ← field? 2 0 59 (← after? [':'] word)
  return word

/-- The rest after a time, whose seconds and their fraction may be missing. -/
def afterTime? (word : List Char) : Option (List Char) := do
  match ← afterMinutes? word with
  | ':' :: word =>
    let (_, word) ← field? 2 0 60 word
    match word with
    | '.' :: word =>
      if (word.head?.map Char.isDigit).getD false then some (word.dropWhile Char.isDigit) else none
    | word => some word
  | word => some word

/-- Whether a word is an offset from universal time, or nothing. -/
def isOffset : List Char → Bool
  | [] | ['Z'] | ['z'] => true
  | '+' :: word | '-' :: word => afterMinutes? word = some []
  | _ => false

def isMoment (word : List Char) : Bool :=
  match afterDate? word with
  | some [] => true
  | some (c :: time) =>
    (c = 'T' || c = 't' || c = ' ') && ((afterTime? time).map isOffset).getD false
  | none => afterTime? word = some []

/-! ### Words -/

/-- The value of a word that has a meaning of its own, with or without a sign. -/
def named? (word : List Char) : Option Value :=
  match String.ofList word with
  | "true" => some (.boolean true)
  | "false" => some (.boolean false)
  | "inf" | "+inf" => some (.float (some (1.0 / 0.0)))
  | "-inf" => some (.float (some (-1.0 / 0.0)))
  | "nan" | "+nan" | "-nan" => some (.float (some (0.0 / 0.0)))
  | _ => none

/-- The value of a word of decimal digits and other characters. What stands after the digits at the
front says what kind of value it is. -/
def digitWord? (word : List Char) : Option Value :=
  let rest := (afterSign word).2.dropWhile Char.isDigit
  match rest with
  | [] => integer? word
  | c :: _ =>
    if c = '-' || c = ':' then if isMoment word then some .moment else none
    else if rest.contains ' ' then none
    else if rest.any fun c => c = '.' || c = 'e' || c = 'E' then float? word
    else if c = '_' then integer? word
    else none

/-- The value that a word stands for. -/
def wordValue? (word : List Char) : Option Value :=
  match named? word with
  | some v => some v
  | none =>
    match baseOf? word with
    | some (base, digits) => integerInBase? base digits
    | none => digitWord? word

end FaultTolerance.Toml
