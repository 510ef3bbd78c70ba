import FaultTolerance.Json.Basic
import FaultTolerance.Text.Scan

/-!
Reading JSON values.

A string may name a character above the basic plane by a pair of escapes, each of them half of it.
Half a pair alone names no character and is refused. A `lenient` reader, which only wants to know
where a value ends, lets it pass.
-/

namespace FaultTolerance.Json

open Text (after? hexCode? ofDigits)

/-- What stands for a character that is none. -/
def placeholder : Char := Char.ofNat 0xFFFD

/-- The second half of a pair of escapes that began with the given half. -/
def secondHalf? (high : Nat) (text : List Char) : Option (Char × List Char) := do
  let (low, rest) ← hexCode? 4 (← after? ['\\', 'u'] text)
  if 0xDC00 ≤ low && low ≤ 0xDFFF then
    some (Char.ofNat (0x10000 + (high - 0xD800) * 0x400 + (low - 0xDC00)), rest)
  else none

/-- The character that an escape names, read after its backslash. -/
def escape? (lenient : Bool) : List Char → Option (Char × List Char)
  | '"' :: rest => some ('"', rest)
  | '\\' :: rest => some ('\\', rest)
  | '/' :: rest => some ('/', rest)
  | 'b' :: rest => some (Char.ofNat 8, rest)
  | 'f' :: rest => some (Char.ofNat 12, rest)
  | 'n' :: rest => some ('\n', rest)
  | 'r' :: rest => some ('\r', rest)
  | 't' :: rest => some ('\t', rest)
  | 'u' :: rest => do
    let (code, rest) ← hexCode? 4 rest
    if 0xD800 ≤ code && code ≤ 0xDFFF then
      if lenient then some (placeholder, rest)
      else if code ≤ 0xDBFF then secondHalf? code rest
      else none
    else some (Char.ofNat code, rest)
  | _ => none

/-- The rest of a string, read after its opening quote. -/
def characters? (lenient : Bool) : (fuel : Nat) → List Char → Option (List Char × List Char)
  | 0, _ => none
  | _, [] => none
  | _, '"' :: rest => some ([], rest)
  | fuel + 1, '\\' :: rest => do
    let (c, rest) ← escape? lenient rest
    let (cs, rest) ← characters? lenient fuel rest
    return (c :: cs, rest)
  | fuel + 1, c :: rest =>
    if c < ' ' then none
    else do
      let (cs, rest) ← characters? lenient fuel rest
      return (c :: cs, rest)

def isBlank (c : Char) : Bool := c = ' ' || c = '\t' || c = '\n' || c = '\r'

def skipBlanks (text : List Char) : List Char := text.dropWhile isBlank

/-- A string, read from its opening quote on. -/
def stringAt? (lenient : Bool) : List Char → Option (String × List Char)
  | '"' :: rest => do
    let (cs, rest) ← characters? lenient (rest.length + 1) rest
    return (String.ofList cs, rest)
  | _ => none

/-- The digits at the front, at least one. -/
def digits? (text : List Char) : Option (List Char × List Char) :=
  let digits := text.takeWhile Char.isDigit
  if digits.isEmpty then none else some (digits, text.dropWhile Char.isDigit)

/-- The places after a point, if there is a point. -/
def places? : List Char → Option (List Char × List Char)
  | '.' :: rest => digits? rest
  | text => some ([], text)

/-- The exponent, if there is one. -/
def exponent? : List Char → Option (Option Int × List Char)
  | c :: rest =>
    if c = 'e' || c = 'E' then
      let (negative, rest) :=
        match rest with
        | '-' :: rest => (true, rest)
        | '+' :: rest => (false, rest)
        | rest => (false, rest)
      do
        let (digits, rest) ← digits? rest
        let size : Int := ofDigits 10 digits
        return (some (if negative then -size else size), rest)
    else some (none, c :: rest)
  | [] => some (none, [])

/-- A number. A zero in front is followed by no other digit of the whole part. -/
def number? (text : List Char) : Option (Number × List Char) := do
  let (negative, text) :=
    match text with
    | '-' :: rest => (true, rest)
    | text => (false, text)
  let (whole, text) ← digits? text
  if whole.head? = some '0' && 1 < whole.length then none
  let (places, text) ← places? text
  let (exponent, text) ← exponent? text
  return (
    { negative
      digits := ofDigits 10 (whole ++ places)
      exponent := exponent.getD 0 - places.length
      whole := places.isEmpty && exponent.isNone }, text)

mutual

/-- A value, with blanks in front of it. -/
def value? (lenient : Bool) : (fuel : Nat) → List Char → Option (Json × List Char)
  | 0, _ => none
  | fuel + 1, text =>
    match skipBlanks text with
    | '[' :: rest =>
      match skipBlanks rest with
      | ']' :: rest => some (.array [], rest)
      | rest => (items? lenient fuel rest).map fun (items, rest) => (.array items, rest)
    | '\x7b' :: rest =>
      match skipBlanks rest with
      | '\x7d' :: rest => some (.object [], rest)
      | rest => (members? lenient fuel rest).map fun (members, rest) => (.object members, rest)
    | '"' :: rest => (stringAt? lenient ('"' :: rest)).map fun (s, rest) => (.string s, rest)
    | 'n' :: rest => (after? "ull".toList rest).map fun rest => (.null, rest)
    | 't' :: rest => (after? "rue".toList rest).map fun rest => (.boolean true, rest)
    | 'f' :: rest => (after? "alse".toList rest).map fun rest => (.boolean false, rest)
    | text => (number? text).map fun (n, rest) => (.number n, rest)

/-- The items of an array up to its end. -/
def items? (lenient : Bool) : (fuel : Nat) → List Char → Option (List Json × List Char)
  | 0, _ => none
  | fuel + 1, text => do
    let (item, rest) ← value? lenient fuel text
    match skipBlanks rest with
    | ']' :: rest => return ([item], rest)
    | ',' :: rest =>
      let (items, rest) ← items? lenient fuel rest
      return (item :: items, rest)
    | _ => none

/-- The members of an object up to its end. -/
def members? (lenient : Bool) :
    (fuel : Nat) → List Char → Option (List (String × Json) × List Char)
  | 0, _ => none
  | fuel + 1, text => do
    let (name, rest) ← stringAt? lenient (skipBlanks text)
    let (item, rest) ← value? lenient fuel (← after? [':'] (skipBlanks rest))
    match skipBlanks rest with
    | '\x7d' :: rest => return ([(name, item)], rest)
    | ',' :: rest =>
      let (members, rest) ← members? lenient fuel rest
      return ((name, item) :: members, rest)
    | _ => none

end

/-- Reads a text that holds one value and blanks. -/
def ofText? (s : String) : Option Json := do
  let text := s.toList
  let (j, rest) ← value? false (2 * text.length + 1) text
  if (skipBlanks rest).isEmpty then some j else none

end FaultTolerance.Json
