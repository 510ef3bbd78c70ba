import FaultTolerance.Logging.Pattern.Class

/-!
Which texts are search patterns.

A pattern is made of characters that stand for themselves, of `.`, of classes in brackets, of groups
in parentheses, of choices between `|` and of repetitions by `?`, `*` and `+`. A backslash takes
the special meaning from a sign, or gives one to a letter. A repetition by counts in braces is no
part of a pattern here, because a brace ends the text that a pattern stands in.

A group, a class, a repetition, a choice and a row of pieces are each one higher than the highest of
what they are made of, and a pattern is only so high.
-/

namespace FaultTolerance.Pattern

/-- What stands in one group so far. -/
structure Level where
  /-- The heights of the pieces since the last `|`, the last one first. -/
  pieces : List Nat := []
  /-- The heights of what stands in front of each `|`. -/
  choices : List Nat := []
  deriving DecidableEq, Repr, Inhabited

namespace Level

def height (l : Level) : Nat := heightOf (heightOf l.pieces :: l.choices)

def add (height : Nat) (l : Level) : Level := { l with pieces := height :: l.pieces }

/-- Repeats the last piece. -/
def again (l : Level) : Level :=
  match l.pieces with
  | [] => l
  | height :: pieces => { l with pieces := (height + 1) :: pieces }

/-- Begins another choice. -/
def startChoice (l : Level) : Level := { choices := heightOf l.pieces :: l.choices }

end Level

/-- What matters of the beginning of a pattern for what may follow it. -/
structure Progress where
  flags : Flags := {}
  level : Level := {}
  /-- The flags around each group that is open and what stands there, the innermost first. -/
  outer : List (Flags × Level) := []
  /-- The names of the groups so far. -/
  names : List (List Char) := []
  /-- Whether there is something in front that can be repeated. -/
  repeatable : Bool := false
  deriving Repr, Inhabited

namespace Progress

/-- Goes on after a piece. -/
def add (height : Nat) (p : Progress) : Progress :=
  { p with level := p.level.add height, repeatable := true }

/-- Goes on inside a group. -/
def enter (flags : Flags) (p : Progress) : Progress :=
  { p with flags, level := {}, outer := (p.flags, p.level) :: p.outer, repeatable := false }

/-- Opens a group that has a name, which begins with a letter. -/
def openNamed? (p : Progress) (text : List Char) : Option (Progress × List Char) := do
  let name := text.takeWhile (· != '>')
  let rest ← Text.after? ['>'] (text.drop name.length)
  let startsName (c : Char) : Bool := c = '_' || Text.isLetter c
  let goesOn (c : Char) : Bool := Text.isAlphanumeric c || ['_', '.', '[', ']'].contains c
  if name.head?.any startsName && name.all goesOn && !p.names.contains name then
    some ({ p.enter p.flags with names := name :: p.names }, rest)
  else none

/-- Opens a group, or sets flags for the rest of the one that is open. -/
def open? (p : Progress) (text : List Char) : Option (Progress × List Char) :=
  match p.flags.skip false text with
  | '?' :: 'P' :: '<' :: text | '?' :: '<' :: text => p.openNamed? text
  | '?' :: text => do
    let (flags, rest) ← p.flags.read? true [] text
    match rest with
    | ':' :: rest => some (p.enter flags, rest)
    | _ :: rest =>
      if text.head? = some ')' then none
      else some ({ p with flags, level := p.level.add 0, repeatable := false }, rest)
    | [] => none
  | text => some (p.enter p.flags, text)

/-- Closes the innermost group. -/
def close? (p : Progress) : Option Progress :=
  match p.outer with
  | [] => none
  | (flags, around) :: outer =>
    some ({ p with flags, level := around, outer }.add (p.level.height + 1))

/-- Reads one piece of a pattern. A `?` directly behind a repetition belongs to it. -/
def next? (p : Progress) : List Char → Option (Progress × List Char)
  | [] => none
  | c :: text =>
    match c with
    | '(' => p.open? text
    | ')' => p.close?.map (·, text)
    | '|' => some ({ p with level := p.level.startChoice, repeatable := false }, text)
    | '?' | '*' | '+' =>
      if p.repeatable then
        some ({ p with level := p.level.again }, (Text.after? ['?'] text).getD text)
      else none
    | '[' => (class? p.flags text).map fun (height, rest) => (p.add height, rest)
    | '\\' =>
      ((escape? p.flags text).filter (·.1.isPiece p.flags)).map fun (_, rest) => (p.add 0, rest)
    | '^' | '$' => some (p.add 0, text)
    | '.' => if p.flags.bytes then none else some (p.add 0, text)
    | '\x7b' => none
    | _ => if p.flags.knowsCase then some (p.add 0, text) else none

/-- Whether a pattern goes on and ends as it should. Every piece takes at least one character. -/
def completes : (fuel : Nat) → Progress → List Char → Bool
  | 0, _, _ => false
  | fuel + 1, p, text =>
    match p.flags.skip false text with
    | [] => p.outer.isEmpty && p.level.height ≤ maxHeight
    | text => (p.next? text).any fun (p, rest) => p.completes fuel rest

end Progress

end FaultTolerance.Pattern

namespace FaultTolerance

/-- Whether a text is a search pattern. -/
def isPattern (text : List Char) : Bool := Pattern.Progress.completes (text.length + 1) {} text

end FaultTolerance
