import FaultTolerance.Text.Letters
import FaultTolerance.Text.Scan

/-!
What all parts of search patterns have in common: the flags that hold at a place, how high a part
towers over its smallest pieces, and what a backslash gives or takes.

Letter cases and the classes of digits, words and blanks are known for single bytes only, so a
pattern may use them only where its flags say that it is about bytes.
-/

namespace FaultTolerance.Pattern

/-- The flags that hold at a place of a pattern. -/
structure Flags where
  /-- Capital and small letters are the same. -/
  anyCase : Bool := false
  /-- Classes and codes are about bytes, of which only those of ASCII are allowed. -/
  bytes : Bool := false
  /-- Blanks and comments are left out. -/
  spaced : Bool := false
  deriving DecidableEq, Repr, Inhabited

namespace Flags

/-- Whether it is known which characters count as the same. -/
def knowsCase (f : Flags) : Bool := f.bytes || !f.anyCase

/-- Whether a character may be a member of a class. -/
def allowsMember (f : Flags) (c : Char) : Bool :=
  if f.bytes then c.toNat < 0x80 else !f.anyCase

/-- Sets one flag. Some flags make no difference to which texts are patterns. -/
def set? (f : Flags) (on : Bool) : Char → Option Flags
  | 'i' => some { f with anyCase := on }
  | 'u' => some { f with bytes := !on }
  | 'x' => some { f with spaced := on }
  | 'm' | 's' | 'R' | 'U' => some f
  | _ => none

/-- Reads flags up to the colon or parenthesis behind them. Each flag is named once; those after a
minus are taken away, and at least one is. -/
def read? (f : Flags) (on : Bool) (seen : List Char) : List Char → Option (Flags × List Char)
  | [] => none
  | c :: text =>
    if c = ':' || c = ')' then if seen.head? = some '-' then none else some (f, c :: text)
    else if seen.contains c then none
    else if c = '-' then read? f false (c :: seen) text
    else do read? (← f.set? on c) on (c :: seen) text

/-- Leaves out blanks and comments where they do not count. `comment` holds inside a comment, which
goes on to the end of its line. -/
def skip (f : Flags) (comment : Bool) : List Char → List Char
  | [] => []
  | c :: text =>
    if !f.spaced then c :: text
    else if comment then skip f (c != '\n') text
    else if c = '#' then skip f true text
    else if Text.isBlank c then skip f false text
    else c :: text

end Flags

/-! ### Heights -/

/-- The height of parts that stand side by side. A part that stands alone is no lower than the
whole. -/
def heightOf : List Nat → Nat
  | [] => 0
  | [height] => height
  | heights => heights.foldl max 0 + 1

/-- The height that no pattern exceeds. -/
def maxHeight : Nat := 250

/-! ### Backslashes -/

/-- What a backslash and the signs behind it stand for. -/
inductive Escape where
  | character (c : Char)
  | place
  | group
  deriving DecidableEq, Repr

namespace Escape

/-- Whether it may be a piece of a pattern. -/
def isPiece (f : Flags) : Escape → Bool
  | character _ => f.knowsCase
  | _ => true

/-- Whether it may be a member of a class. -/
def isMember (f : Flags) : Escape → Bool
  | character c => f.allowsMember c
  | place => false
  | group => true

end Escape

/-- The letters that stand for unprintable characters. -/
def unprintable : List (Char × Nat) :=
  [('a', 7), ('f', 12), ('n', 10), ('r', 13), ('t', 9), ('v', 11)]

/-- The letters that announce a code point, and the number of its digits. -/
def codeLengths : List (Char × Nat) := [('x', 2), ('u', 4), ('U', 8)]

/-- Reads so many digits of a code point. -/
def digits? (f : Flags) : (count : Nat) → List Char → Option (List Char × List Char)
  | 0, text => some ([], text)
  | count + 1, text =>
    match f.skip false text with
    | [] => none
    | c :: text =>
      if Text.isDigitOf 16 c then
        (digits? f count text).map fun (digits, rest) => (c :: digits, rest)
      else none

/-- Reads what follows a backslash. A code of two digits is a byte where the pattern is about
bytes. -/
def escape? (f : Flags) : List Char → Option (Escape × List Char)
  | [] => none
  | c :: text =>
    match codeLengths.lookup c with
    | some count => do
      let (digits, text) ← digits? f count text
      let code ← Text.charOf? (Text.ofDigits 16 digits)
      if f.bytes && c = 'x' && 0x80 ≤ code.toNat then none else some (.character code, text)
    | none =>
      match unprintable.lookup c with
      | some code => some (.character (Char.ofNat code), text)
      | none =>
        if c = 'A' || c = 'z' then some (.place, text)
        else if ['b', 'B', '<', '>'].contains c then
          if f.bytes then some (.place, text) else none
        else if ['d', 's', 'w'].contains c then if f.bytes then some (.group, text) else none
        else if c.isAlphanum || 0x80 ≤ c.toNat then none
        else some (.character c, text)

end FaultTolerance.Pattern
