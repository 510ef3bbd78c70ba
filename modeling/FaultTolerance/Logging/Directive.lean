import FaultTolerance.Decimal.Double
import FaultTolerance.Decimal.Text
import FaultTolerance.Logging.Line
import FaultTolerance.Logging.Pattern

/-!
The directives of log filters.

A directive says how much is shown of a part of the program, or of everything: `target[span]=level`.
The span may name a field that a line has to have, and the value of it: `[span{field=value}]`. What
is missing does not restrict anything, and a missing level shows everything.

Blanks around a directive are left out when its parts are found, but the parts are then cut from
the text as it stands. So a blank in front moves every part by its length.
-/

namespace FaultTolerance

/-- The value that a field has to have. -/
inductive FieldValue where
  | truth (b : Bool)
  | natural (n : Nat)
  /-- A number with a minus in front. -/
  | integer (n : Int)
  | decimal (n : Decimal.Number)
  /-- A pattern that the written value has to fit. -/
  | pattern (text : String)
  deriving DecidableEq, Repr

namespace FieldValue

/-- A whole number with a minus in front, in the range of 64 bits. -/
def integerOfText? : List Char → Option Int
  | '-' :: digits =>
    let n := Text.ofDigits 10 digits
    if !digits.isEmpty && digits.all Char.isDigit && n ≤ 0x8000000000000000 then some (-n) else none
  | _ => none

/-- A whole number of 64 bits without a minus. -/
def naturalOfText? (text : List Char) : Option Nat :=
  let digits := (Text.after? ['+'] text).getD text
  let n := Text.ofDigits 10 digits
  if !digits.isEmpty && digits.all Char.isDigit && n < 0x10000000000000000 then some n else none

/-- The value that a text stands for: what it can be read as first. -/
def ofText? (text : List Char) : Option FieldValue :=
  match String.ofList text with
  | "true" => some (truth true)
  | "false" => some (truth false)
  | s =>
    ((naturalOfText? text).map natural).or <| ((integerOfText? text).map integer).or <|
      ((Decimal.doubleOfText? text).map fun x => decimal (.ofDouble x)).or <|
        if isPattern text then some (pattern s) else none

def text : FieldValue → String
  | truth b => if b then "true" else "false"
  | natural n => toString n
  | integer n => toString n
  | decimal n => n.plain
  | pattern text => text

/-- Whether two values are the same. A zero may have either sign. -/
def isSame : FieldValue → FieldValue → Bool
  | decimal n, decimal m => n = m || (n.isZero && m.isZero)
  | v, w => v = w

end FieldValue

/-- A field that a line has to have. -/
structure LogField where
  name : String
  value : Option FieldValue := none
  deriving DecidableEq, Repr

namespace LogField

/-- Reads a field. What stands behind a second equals sign is left out. -/
def ofText? (text : List Char) : Option LogField :=
  match (String.ofList text).splitOn "=" with
  | name :: value :: _ =>
    (FieldValue.ofText? value.toList).map fun value => { name, value := some value }
  | [name] => some { name }
  | [] => none

def text (f : LogField) : String := f.name ++ (f.value.map fun v => "=" ++ v.text).getD ""

def isSame (f g : LogField) : Bool :=
  f.name = g.name &&
    match f.value, g.value with
    | none, none => true
    | some v, some w => v.isSame w
    | _, _ => false

end LogField

/-- How much is shown of what matches. -/
structure LogDirective where
  /-- The part of the program; a part stands for all that begins with its name. -/
  target : Option String := none
  /-- Only what happens inside a span of this name. -/
  span : Option String := none
  /-- Only what has this field. -/
  field : Option LogField := none
  /-- The last level that is shown, if any is. -/
  limit : Option LogLevel := some .trace
  deriving DecidableEq, Repr

namespace LogDirective

/-! ### Limits -/

/-- All limits by their numbers. -/
def limits : List (Option LogLevel) := none :: LogLevel.all.map some

def limitText (limit : Option LogLevel) : String := (limit.map LogLevel.text).getD "off"

/-- A limit by its number or by its name in letters of either case. -/
def limitOfText? (text : List Char) : Option (Option LogLevel) :=
  match FieldValue.naturalOfText? text with
  | some n => limits[n]?
  | none =>
    let name := String.ofList (text.map Char.toLower)
    limits.find? (limitText · = name)

/-! ### Reading -/

/-- The rest of a text after so many bytes, if a character ends there. -/
def dropBytes? : (count : Nat) → List Char → Option (List Char)
  | 0, text => some text
  | _, [] => none
  | count, c :: text =>
    if c.utf8Size ≤ count then dropBytes? (count - c.utf8Size) text else none

/-- The front of a text up to so many bytes, if a character ends there. -/
def takeBytes? : (count : Nat) → List Char → Option (List Char)
  | 0, _ => some []
  | _, [] => none
  | count, c :: text =>
    if c.utf8Size ≤ count then (takeBytes? (count - c.utf8Size) text).map (c :: ·) else none

/-- The part of a text from one count of bytes to another. -/
def cut? (text : List Char) (start stop : Nat) : Option (List Char) := do
  takeBytes? (stop - start) (← dropBytes? start text)

/-- Where the reading of a directive stands, and the byte at which the open part began. -/
inductive Place where
  | front
  | target (start : Nat)
  | span (start : Nat)
  | field (start : Nat)
  /-- After a field. -/
  | fields
  /-- After the closing bracket. -/
  | brackets
  | limit (start : Nat)
  deriving DecidableEq, Repr

/-- Whether a target or a level may begin with a character. -/
def isOpening (c : Char) : Bool := ['-', ':', '_'].contains c || Text.isAlphanumeric c

/-- What the reading of a character does at a place. `position` is the count of bytes before it, and
the parts are cut from `text`. -/
def next? (text : List Char) (position : Nat) (c : Char) (d : LogDirective) :
    Place → Option (LogDirective × Place)
  | .front =>
    if c = '[' then some (d, .span (position + 1))
    else if isOpening c then some (d, .target position)
    else none
  | .target start =>
    if c = '=' || c = '[' then do
      let target := some (String.ofList (← cut? text start position))
      let place := if c = '=' then .limit (position + 1) else .span (position + 1)
      return ({ d with target }, place)
    else some (d, .target start)
  | .span start =>
    if c = ']' then do
      return ({ d with span := some (String.ofList (← cut? text start position)) }, .brackets)
    else if c = '\x7b' then do
      let span ← cut? text start position
      let span := if span.isEmpty then none else some (String.ofList span)
      return ({ d with span }, .field (position + 1))
    else some (d, .span start)
  | .field start =>
    if c = '\x7d' then do
      let field ← cut? text start position
      if field.isEmpty then none
      return ({ d with field := some (← LogField.ofText? field) }, .fields)
    else some (d, .field start)
  | .fields => if c = ']' then some (d, .brackets) else none
  | .brackets => if c = '=' then some (d, .limit (position + 1)) else none
  | .limit start => some (d, .limit start)

/-- What has been read when the text ends at a place. A text that is no level is a target. -/
def finish? (text : List Char) (d : LogDirective) : Place → Option LogDirective
  | .target start => do
    let text ← dropBytes? start text
    match limitOfText? text with
    | some limit => return { limit }
    | none => return { target := some (String.ofList text) }
  | .limit start => do
    let text ← dropBytes? start text
    if text.isEmpty then return d
    return { d with limit := ← limitOfText? text }
  | .brackets => some d
  | _ => none

/-- Reads the characters of a directive from a place on. -/
def readFrom? (text : List Char) (position : Nat) (d : LogDirective) (place : Place) :
    List Char → Option LogDirective
  | [] => finish? text d place
  | c :: rest => do
    let (d, place) ← next? text position c d place
    readFrom? text (position + c.utf8Size) d place rest

def ofText? (s : String) : Option LogDirective :=
  readFrom? s.toList 0 {} .front (Text.trimmed s.toList)

/-! ### Writing -/

def text (d : LogDirective) : String :=
  let inside := d.span.getD "" ++ (d.field.map fun f => "\x7b" ++ f.text ++ "\x7d").getD ""
  let brackets := if d.span.isSome || d.field.isSome then "[" ++ inside ++ "]" else ""
  let isWritten := d.target.isSome || d.span.isSome || d.field.isSome
  d.target.getD "" ++ brackets ++ (if isWritten then "=" else "") ++ limitText d.limit

/-! ### Comparing and matching -/

/-- Whether two directives are about the same. -/
def hasSameSubject (d e : LogDirective) : Bool :=
  d.target = e.target && d.span = e.span &&
    match d.field, e.field with
    | none, none => true
    | some f, some g => f.isSame g
    | _, _ => false

/-- Whether a directive depends on what happens around a line. -/
def isDynamic (d : LogDirective) : Bool := d.span.isSome || d.field.isSome

/-- Whether a directive can decide about a line by itself. One that only names a field is of both
kinds. -/
def isStatic (d : LogDirective) : Bool := d.span.isNone && !(d.field.any (·.value.isSome))

/-- Whether a directive is about a line. Lines are known by their targets alone, so one that asks
for a span or a field is about none. -/
def isAbout (d : LogDirective) (l : LogLine) : Bool :=
  !d.isDynamic && l.target.startsWith (d.target.getD "")

/-- How narrow the subject of a directive is. -/
def narrowness (d : LogDirective) : Nat := (d.target.map (·.length + 1)).getD 0

def lets (d : LogDirective) (l : LogLine) : Bool :=
  match d.limit with
  | none => false
  | some limit => l.level.rank ≤ limit.rank

end LogDirective

end FaultTolerance
