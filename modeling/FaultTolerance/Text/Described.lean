import FaultTolerance.Text.Quoted
import FaultTolerance.Decimal.Text
import FaultTolerance.Time

/-!
The one-line descriptions of values that reports and event records carry: `Name { field: value }`
for records, `Name(value)` for wrapped values, `[a, b]` for lists, `Some(value)` or `None` for
optional ones, and durations in the largest unit that they fill.
-/

namespace FaultTolerance.Text

/-- The fields of a record, separated by commas. -/
def fields (parts : List (String × String)) : String :=
  ", ".intercalate (parts.map fun (name, value) => name ++ ": " ++ value)

def record (name : String) (parts : List (String × String)) : String :=
  if parts.isEmpty then name else name ++ " \x7b " ++ fields parts ++ " \x7d"

/-- A record that has more fields than it shows. -/
def openRecord (name : String) (parts : List (String × String)) : String :=
  name ++ " \x7b " ++ fields parts ++ ", .. \x7d"

def wrapped (name value : String) : String := name ++ "(" ++ value ++ ")"

def list (parts : List String) : String := "[" ++ ", ".intercalate parts ++ "]"

/-- Pairs of quoted texts. -/
def table (parts : List (String × String)) : String :=
  "\x7b" ++ ", ".intercalate (parts.map fun (k, v) => quoted k ++ ": " ++ quoted v) ++ "\x7d"

def optional : Option String → String
  | none => "None"
  | some value => wrapped "Some" value

def boolean (b : Bool) : String := if b then "true" else "false"

def single (x : Float32) : String := (Decimal.Number.ofSingle x).exact

def double (x : Float) : String := (Decimal.Number.ofDouble x).exact

/-- The digits of a fraction of a unit that has `10 ^ places` nanoseconds, without zeros at the
end. -/
def fraction (places n : Nat) : String :=
  let digits := toString n
  let padded := "".pushn '0' (places - digits.length) ++ digits
  String.ofList (padded.toList.reverse.dropWhile (· = '0')).reverse

/-- A number of nanoseconds in a unit of `10 ^ places` of them. -/
def inUnit (nanos places : Nat) (unit : String) : String :=
  let part := nanos % Nat.pow 10 places
  let whole := toString (nanos / Nat.pow 10 places)
  (if part = 0 then whole else whole ++ "." ++ fraction places part) ++ unit

def duration (d : Duration) : String :=
  if 1000000000 ≤ d.nanos then inUnit d.nanos 9 "s"
  else if 1000000 ≤ d.nanos then inUnit d.nanos 6 "ms"
  else if 1000 ≤ d.nanos then inUnit d.nanos 3 "µs"
  else inUnit d.nanos 0 "ns"

end FaultTolerance.Text
