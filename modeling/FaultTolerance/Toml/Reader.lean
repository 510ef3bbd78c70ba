import FaultTolerance.Toml.Number
import FaultTolerance.Toml.Quoted
import FaultTolerance.Toml.Table

/-!
Reading a TOML document.

A document is a sequence of lines, each with a header, a key with its value, a comment or nothing.
Arrays and tables in braces may span lines, hold comments and end with a comma. They nest to a
bounded depth.
-/

namespace FaultTolerance.Toml

open Text (after?)

/-- How deep arrays and tables in braces may nest. -/
def depthLimit : Nat := 80

/-- Drops a comment in front of a line break or the end. -/
def skipComment? (text : List Char) : Option (List Char) :=
  match text with
  | '#' :: rest =>
    let rest := rest.dropWhile isPlain
    if rest.isEmpty || (afterBreak? rest).isSome then some rest else none
  | text => some text

/-- Drops blanks, comments and line breaks. -/
def skipFiller? : (fuel : Nat) → List Char → Option (List Char)
  | 0, _ => none
  | fuel + 1, text => do
    let text ← skipComment? (text.dropWhile isBlank)
    match afterBreak? text with
    | some rest => skipFiller? fuel rest
    | none => some text

/-- Drops blanks, comments and line breaks inside of brackets. -/
def skip? (text : List Char) : Option (List Char) := skipFiller? (text.length + 1) text

/-- The characters that end a word. -/
def delimiters : List Char :=
  ['=', ',', '[', ']', '\x7b', '\x7d', ' ', '\t', '#', '\r', '\n']

def isWordChar (c : Char) : Bool := !delimiters.contains c

/-- The word at the front. A blank joins a date with the time after it. -/
def word (text : List Char) : List Char × List Char :=
  let first := text.takeWhile isWordChar
  let rest := text.dropWhile isWordChar
  match rest with
  | ' ' :: c :: more =>
    if c.isDigit && afterDate? first = some [] then
      (first ++ ' ' :: (c :: more).takeWhile isWordChar, (c :: more).dropWhile isWordChar)
    else (first, rest)
  | _ => (first, rest)

/-- A key and the text from its value on, where its line does not end before. -/
def keyUpToValue? (text : List Char) : Option (List String × List Char) := do
  let (key, rest) ← key? text
  return (key, (← after? ['='] rest).dropWhile isBlank)

/-- A key and the text from its value on, where lines may end before and after the equals sign. -/
def looseKeyUpToValue? (text : List Char) : Option (List String × List Char) := do
  let (key, rest) ← key? text
  return (key, ← skip? (← after? ['='] (← skip? rest)))

mutual

/-- A value without blanks in front, `depth` brackets deep at most. -/
def value? : (fuel depth : Nat) → List Char → Option (Value × List Char)
  | 0, _, _ => none
  | fuel + 1, depth, text =>
    match text with
    | '"' :: _ | '\'' :: _ => (quotedText? text).map fun (s, rest) => (.string s, rest)
    | '[' :: rest => do
      if depth = 0 then none
      let (items, rest) ← items? fuel (depth - 1) rest
      return (.array items, rest)
    | '\x7b' :: rest => do
      if depth = 0 then none
      let (entries, rest) ← entries? fuel (depth - 1) [] rest
      return (.table (entryValues entries), rest)
    | text => do
      let (word, rest) := word text
      return (← wordValue? word, rest)

/-- The items of an array up to its closing bracket. -/
def items? : (fuel depth : Nat) → List Char → Option (List Value × List Char)
  | 0, _, _ => none
  | fuel + 1, depth, text => do
    match ← skip? text with
    | ']' :: rest => return ([], rest)
    | text =>
      let (item, rest) ← value? fuel depth text
      match ← skip? rest with
      | ',' :: rest =>
        let (items, rest) ← items? fuel depth rest
        return (item :: items, rest)
      | ']' :: rest => return ([item], rest)
      | _ => none

/-- The entries of a table in braces, added to what was read of it. -/
def entries? : (fuel depth : Nat) → Entries → List Char → Option (Entries × List Char)
  | 0, _, _, _ => none
  | fuel + 1, depth, entries, text => do
    match ← skip? text with
    | '\x7d' :: rest => return (entries, rest)
    | text =>
      let (key, rest) ← looseKeyUpToValue? text
      let (v, rest) ← value? fuel depth rest
      let entries ← Entries.addPair key (.value v) .opened entries
      match ← skip? rest with
      | ',' :: rest => entries? fuel depth entries rest
      | '\x7d' :: rest => return (entries, rest)
      | _ => none

end

/-- The rest after the end of a line. -/
def endLine? (text : List Char) : Option (List Char) := do
  match ← skipComment? (text.dropWhile isBlank) with
  | [] => some []
  | text => afterBreak? text

/-- The header of a table and the entries of the document so far. -/
structure Draft where
  header : List String := []
  entries : Entries := []

/-- Reads one line without blanks in front and adds it to the draft. -/
def line (d : Draft) (text : List Char) : Option (Draft × List Char) :=
  match text with
  | [] => some (d, [])
  | '#' :: _ | '\n' :: _ | '\r' :: _ => some (d, text)
  | '[' :: '[' :: rest => do
    let (path, rest) ← key? rest
    let entries ← Entries.openRow path d.entries
    return (⟨path, entries⟩, ← after? [']', ']'] rest)
  | '[' :: rest => do
    let (path, rest) ← key? rest
    let entries ← Entries.openTable path d.entries
    return (⟨path, entries⟩, ← after? [']'] rest)
  | text => do
    let (key, rest) ← keyUpToValue? text
    let (v, rest) ← value? (2 * rest.length + 1) depthLimit rest
    let entries ← Entries.addUnder d.header key (.value v) d.entries
    return ({ d with entries }, rest)

/-- Reads the lines of a document. -/
def document? : (fuel : Nat) → Draft → List Char → Option Draft
  | 0, _, _ => none
  | fuel + 1, d, text => do
    let (d, rest) ← line d (text.dropWhile isBlank)
    match ← endLine? rest with
    | [] => some d
    | rest => document? fuel d rest

/-- Reads a document, with an order mark in front or not. -/
def ofText? (s : String) : Option (List (String × Value)) := do
  let text := s.toList
  let text := if text.head? = some (Char.ofNat 0xFEFF) then text.drop 1 else text
  let d ← document? (text.length + 1) {} text
  return entryValues d.entries

end FaultTolerance.Toml
