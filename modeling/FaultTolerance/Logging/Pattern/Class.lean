import FaultTolerance.Logging.Pattern.Basic

/-!
The classes of search patterns: sets of characters in brackets.

A class lists characters, ranges between two of them, classes that have a name, and further classes
in brackets. Two `&`, `-` or `~` stand between two lists, and take all that is on their left
together. -/

namespace FaultTolerance.Pattern

/-- The names of classes of ASCII characters. -/
def classNames : List String :=
  ["alnum", "alpha", "ascii", "blank", "cntrl", "digit", "graph", "lower", "print", "punct",
    "space", "upper", "word", "xdigit"]

/-- What stands between two brackets so far. -/
structure ClassLevel where
  /-- The heights of the members since the last sign between two lists. -/
  members : List Nat := []
  /-- The height of all that is on the left of that sign. -/
  left : Option Nat := none
  deriving DecidableEq, Repr, Inhabited

namespace ClassLevel

def add (height : Nat) (l : ClassLevel) : ClassLevel := { l with members := height :: l.members }

def height (l : ClassLevel) : Nat :=
  match l.left with
  | none => heightOf l.members
  | some left => max left (heightOf l.members) + 1

/-- Begins a new list on the right of all that is there. -/
def startList (l : ClassLevel) : ClassLevel := { left := some l.height }

end ClassLevel

/-- Reads a class that has a name and says whether all but its characters are meant. The opening
bracket is already read. -/
def namedClass? (text : List Char) : Option (Bool × List Char) := do
  let text ← Text.after? [':'] text
  let inner := (Text.after? ['^'] text).getD text
  let name := inner.takeWhile (· != ':')
  let rest ← Text.after? [':', ']'] (inner.drop name.length)
  if classNames.contains (String.ofList name) then some (inner.length < text.length, rest) else none

/-- The number of hyphens at the front, and the rest after them and what does not count. `comment`
holds inside a comment. -/
def hyphens (f : Flags) (comment : Bool) (count : Nat) : List Char → Nat × List Char
  | [] => (count, [])
  | c :: text =>
    if comment then hyphens f (c != '\n') count text
    else if c = '-' then hyphens f false (count + 1) text
    else if f.spaced && c = '#' then hyphens f true count text
    else if f.spaced && Text.isBlank c then hyphens f false count text
    else (count, c :: text)

/-- Reads the front of a class whose opening bracket is already read. Hyphens, or one closing
bracket, stand for themselves there. Of bytes there is no class of all but some. -/
def openClass? (f : Flags) (text : List Char) : Option (ClassLevel × List Char) :=
  let text := f.skip false text
  let inner := (Text.after? ['^'] text).elim text (f.skip false)
  let (count, rest) := hyphens f false 0 inner
  let (count, rest) :=
    match count, rest with
    | 0, ']' :: rest => (1, rest)
    | count, rest => (count, rest)
  if (f.bytes && inner.length < text.length) || (count ≠ 0 && !f.knowsCase) then none
  else some ({ members := List.replicate count 0 }, rest)

/-- One character of a class, or one class behind a backslash. -/
def member? (f : Flags) : List Char → Option (Escape × List Char)
  | [] => none
  | '\\' :: text => (escape? f text).filter (·.1.isMember f)
  | c :: text => if f.allowsMember c then some (.character c, text) else none

/-- Whether a hyphen in front of this text makes no range. Blanks do not matter for that, nor does
the sign that begins a comment. -/
def endsBeforeHyphen (f : Flags) (text : List Char) : Bool :=
  let next :=
    if f.spaced then
      let text := text.dropWhile Text.isBlank
      (Text.after? ['#'] text).elim text (·.dropWhile Text.isBlank)
    else text
  next.head? = some ']' || next.head? = some '-'

/-- The rest after a member of a class, or after a range between two members. -/
def afterRange? (f : Flags) (text : List Char) : Option (List Char) := do
  let (first, text) ← member? f text
  match f.skip false text with
  | '-' :: text =>
    if endsBeforeHyphen f text then some ('-' :: text)
    else
      let (last, text) ← member? f (f.skip false text)
      match first, last with
      | .character a, .character b => if a ≤ b then some text else none
      | _, _ => none
  | text => some text

/-- The height of a class and the rest after it. `outer` holds the classes around the innermost
one, of which `level` is there. -/
def finishClass? (f : Flags) (outer : List ClassLevel) (level : ClassLevel) :
    (fuel : Nat) → List Char → Option (Nat × List Char)
  | 0, _ => none
  | fuel + 1, text =>
    match f.skip false text with
    | '[' :: text =>
      match namedClass? text with
      | some (negated, rest) =>
        if (negated && f.bytes) || !f.knowsCase then none
        else finishClass? f outer (level.add 0) fuel rest
      | none => do
        let (inner, rest) ← openClass? f text
        finishClass? f (level :: outer) inner fuel rest
    | ']' :: text =>
      let height := level.height + 1
      match outer with
      | [] => some (height, text)
      | around :: outer => finishClass? f outer (around.add height) fuel text
    | '&' :: '&' :: text | '-' :: '-' :: text | '~' :: '~' :: text =>
      finishClass? f outer level.startList fuel text
    | text => (afterRange? f text).bind (finishClass? f outer (level.add 0) fuel)

/-- The height of a class whose opening bracket is already read, and the rest after it. Every step
of reading takes at least one character. -/
def class? (f : Flags) (text : List Char) : Option (Nat × List Char) := do
  let (level, rest) ← openClass? f text
  finishClass? f [] level (rest.length + 1) rest

end FaultTolerance.Pattern
