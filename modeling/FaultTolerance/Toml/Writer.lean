import FaultTolerance.Decimal.Text
import FaultTolerance.Toml.Quoted

/-!
Writing a TOML document as a list of tables.

A text stands in double quotes if it needs no escapes there, else in single quotes if it can, else
in three quotes of either kind, and in double quotes with escapes if nothing else will do. A key
is written without quotes if it can be.
-/

namespace FaultTolerance.Toml

inductive Scalar where
  | string (s : String)
  | integer (n : Nat)
  | single (x : Float32)
  | double (x : Float)
  | boolean (b : Bool)

/-- A table with the path of its header. -/
structure Sheet where
  path : List String
  pairs : List (String × Scalar) := []

/-! ### Quotes -/

/-- Whether a character has to be escaped wherever escapes are possible. -/
def isControl (c : Char) : Bool := (c < ' ' && c ≠ '\t' && c ≠ '\n') || c.toNat = 127

/-- The longest row of a character. -/
def longestRow (quote : Char) : (current longest : Nat) → List Char → Nat
  | current, longest, [] => max current longest
  | current, longest, c :: rest =>
    if c = quote then longestRow quote (current + 1) longest rest
    else longestRow quote 0 (max current longest) rest

/-- The hexadecimal digits of a control character. -/
def controlCode (c : Char) : String :=
  let digits := (Nat.toDigits 16 c.toNat).map Char.toUpper
  String.ofList (List.replicate (4 - digits.length) '0' ++ digits)

/-- A character between double quotes. -/
def escaped (c : Char) : String :=
  match c with
  | '\t' => "\\t"
  | '\n' => "\\n"
  | '\r' => "\\r"
  | '"' => "\\\""
  | '\\' => "\\\\"
  | c =>
    if c.toNat = 8 then "\\b"
    else if c.toNat = 12 then "\\f"
    else if isControl c then "\\u" ++ controlCode c
    else c.toString

/-- Text between three double quotes: line breaks stand as they are, and of three quotes in a row
the third is escaped. -/
def escapedLines : (quotes : Nat) → List Char → String
  | _, [] => ""
  | quotes, c :: rest =>
    if c = '"' then
      if quotes = 2 then "\\\"" ++ escapedLines 0 rest else "\"" ++ escapedLines (quotes + 1) rest
    else if c = '\n' then "\n" ++ escapedLines 0 rest
    else escaped c ++ escapedLines 0 rest

def basic (cs : List Char) : String := "\"" ++ String.join (cs.map escaped) ++ "\""

def literal (cs : List Char) : String := "'" ++ String.ofList cs ++ "'"

/-- A line break after the opening quotes, for text that has line breaks. -/
def opening (cs : List Char) : String := if cs.contains '\n' then "\n" else ""

def basicLines (cs : List Char) : String :=
  "\"\"\"" ++ opening cs ++ escapedLines 0 cs ++ "\"\"\""

def literalLines (cs : List Char) : String :=
  "'''" ++ opening cs ++ String.ofList cs ++ "'''"

def quoted (s : String) : String :=
  let cs := s.toList
  let controls := cs.any isControl
  let slashes := cs.contains '\\'
  let breaks := cs.contains '\n'
  let doubles := longestRow '"' 0 0 cs
  let singles := longestRow '\'' 0 0 cs
  if !controls && !slashes && doubles = 0 && !breaks then basic cs
  else if !controls && singles = 0 && !breaks then literal cs
  else if !controls && !slashes && doubles ≤ 2 then basicLines cs
  else if !controls && singles ≤ 2 then literalLines cs
  else if breaks then basicLines cs
  else basic cs

def keyText (s : String) : String :=
  let cs := s.toList
  let controls := cs.any fun c => isControl c || c = '\n'
  if !cs.isEmpty && cs.all isBare then s
  else if !controls && !cs.contains '\\' && !cs.contains '"' then basic cs
  else if !controls && !cs.contains '\'' then literal cs
  else basic cs

/-! ### Documents -/

/-- A float, which shows a point unless it is no number or infinite. -/
def floatText (n : Decimal.Number) : String :=
  match n.reading with
  | .nan => "nan"
  | .infinite negative => if negative then "-inf" else "inf"
  | .finite .. =>
    let text := n.plain
    if text.contains '.' then text else text ++ ".0"

def Scalar.text : Scalar → String
  | string s => quoted s
  | integer n => toString n
  | single x => floatText (.ofSingle x)
  | double x => floatText (.ofDouble x)
  | boolean b => if b then "true" else "false"

def Sheet.text (s : Sheet) : String :=
  "[" ++ ".".intercalate (s.path.map keyText) ++ "]\n" ++
    String.join (s.pairs.map fun (key, v) => keyText key ++ " = " ++ v.text ++ "\n")

/-- The text of a document. -/
def render (sheets : List Sheet) : String := "\n".intercalate (sheets.map Sheet.text)

end FaultTolerance.Toml
