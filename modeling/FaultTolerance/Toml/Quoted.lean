import FaultTolerance.Text.Scan

/-!
Reading quoted text and keys.

Double quotes allow escapes, single quotes do not; three of either kind span lines. A line break
right after three opening quotes is dropped, and so is every blank after a backslash that ends a
line. Up to two quotes may stand before three closing ones.
-/

namespace FaultTolerance.Toml

open Text (after? hexCode? charOf?)

/-- A character that text may hold as it is: no control but the tab. -/
def isPlain (c : Char) : Bool := c = '\t' || (' ' ≤ c && c.toNat ≠ 127)

def isBlank (c : Char) : Bool := c = ' ' || c = '\t'

/-- The rest after a line break. -/
def afterBreak? : List Char → Option (List Char)
  | '\n' :: rest => some rest
  | '\r' :: '\n' :: rest => some rest
  | _ => none

/-- The character of an escape, read after its backslash. -/
def escape? : List Char → Option (Char × List Char)
  | 'b' :: rest => some (Char.ofNat 8, rest)
  | 't' :: rest => some ('\t', rest)
  | 'n' :: rest => some ('\n', rest)
  | 'f' :: rest => some (Char.ofNat 12, rest)
  | 'r' :: rest => some ('\r', rest)
  | 'e' :: rest => some (Char.ofNat 27, rest)
  | '"' :: rest => some ('"', rest)
  | '\\' :: rest => some ('\\', rest)
  | 'x' :: rest => coded 2 rest
  | 'u' :: rest => coded 4 rest
  | 'U' :: rest => coded 8 rest
  | _ => none
where
  coded (count : Nat) (rest : List Char) : Option (Char × List Char) := do
    let (code, rest) ← hexCode? count rest
    return (← charOf? code, rest)

/-- Text on one line up to the closing quote. -/
def line? (quote : Char) (escapes : Bool) :
    (fuel : Nat) → List Char → Option (List Char × List Char)
  | 0, _ => none
  | _, [] => none
  | fuel + 1, c :: rest =>
    if c = quote then some ([], rest)
    else if escapes && c = '\\' then do
      let (c, rest) ← escape? rest
      let (cs, rest) ← line? quote escapes fuel rest
      return (c :: cs, rest)
    else if isPlain c then do
      let (cs, rest) ← line? quote escapes fuel rest
      return (c :: cs, rest)
    else none

/-- Drops blanks and line breaks. -/
def skipLayout : (fuel : Nat) → List Char → List Char
  | 0, text => text
  | fuel + 1, text =>
    let text := text.dropWhile isBlank
    match afterBreak? text with
    | some rest => skipLayout fuel rest
    | none => text

/-- The rest after a backslash that ends its line. -/
def afterLineEnd? (text : List Char) : Option (List Char) :=
  match afterBreak? (text.dropWhile isBlank) with
  | some rest => some (skipLayout (rest.length + 1) rest)
  | none => none

/-- The quotes that belong to the text, of a row that closes it. -/
def closing (quote : Char) (text : List Char) : Option (List Char × List Char) :=
  let row := (text.takeWhile (· = quote)).length
  if row < 3 then none
  else
    let inner := min (row - 3) 2
    some (List.replicate inner quote, text.drop (inner + 3))

/-- Text on several lines up to three closing quotes. -/
def lines? (quote : Char) (escapes : Bool) :
    (fuel : Nat) → List Char → Option (List Char × List Char)
  | 0, _ => none
  | _, [] => none
  | fuel + 1, c :: rest =>
    match if c = quote then closing quote (c :: rest) else none with
    | some found => some found
    | none =>
      if escapes && c = '\\' then
        match afterLineEnd? rest with
        | some rest => lines? quote escapes fuel rest
        | none => do
          let (c, rest) ← escape? rest
          let (cs, rest) ← lines? quote escapes fuel rest
          return (c :: cs, rest)
      else if isPlain c || c = '\n' || (c = '\r' && rest.head? = some '\n') then do
        let (cs, rest) ← lines? quote escapes fuel rest
        return (c :: cs, rest)
      else none

/-- A quoted text on one line, read from its opening quote on. -/
def quotedLine? : List Char → Option (String × List Char)
  | '"' :: rest => (line? '"' true (rest.length + 1) rest).map fun (cs, rest) =>
    (String.ofList cs, rest)
  | '\'' :: rest => (line? '\'' false (rest.length + 1) rest).map fun (cs, rest) =>
    (String.ofList cs, rest)
  | _ => none

/-- A quoted text of any kind, read from its opening quote on. -/
def quotedText? (text : List Char) : Option (String × List Char) :=
  match text with
  | '"' :: '"' :: '"' :: rest => block '"' true rest
  | '\'' :: '\'' :: '\'' :: rest => block '\'' false rest
  | text => quotedLine? text
where
  block (quote : Char) (escapes : Bool) (rest : List Char) : Option (String × List Char) :=
    let rest := (afterBreak? rest).getD rest
    (lines? quote escapes (rest.length + 1) rest).map fun (cs, rest) => (String.ofList cs, rest)

/-! ### Keys -/

def isBare (c : Char) : Bool := c.isAlphanum || c = '-' || c = '_'

/-- One part of a key. -/
def keyPart? (text : List Char) : Option (String × List Char) :=
  match text with
  | '"' :: _ | '\'' :: _ => quotedLine? text
  | text =>
    let part := text.takeWhile isBare
    if part.isEmpty then none else some (String.ofList part, text.dropWhile isBare)

/-- How many parts a key has at most. -/
def partLimit : Nat := 80

/-- The parts of a key, with blanks around the points, of which there may be so many. -/
def parts? : (limit : Nat) → List Char → Option (List String × List Char)
  | 0, _ => none
  | limit + 1, text => do
    let (part, rest) ← keyPart? (text.dropWhile isBlank)
    match rest.dropWhile isBlank with
    | '.' :: rest =>
      let (parts, rest) ← parts? limit rest
      return (part :: parts, rest)
    | rest => return ([part], rest)

def key? (text : List Char) : Option (List String × List Char) := parts? partLimit text

end FaultTolerance.Toml
