import FaultTolerance.Toml.Value

/-!
Taking a structure out of a document.

A structure is a table whose keys are all known, or an array that lists its fields in order; what
is missing keeps its default and what an array has too much is ignored.
-/

namespace FaultTolerance.Settings

open Toml (Value)

/-- A reason why a document is refused, or what was read. -/
abbrev Reading (α : Type) : Type := Except String α

/-- The values of a structure's fields, by name. -/
structure Fields where
  entries : List (String × Value)

namespace Fields

/-- The refusal of a value of the wrong kind, or of a number without a value. -/
def unexpected {α : Type} (wanted : String) (v : Value) : Reading α :=
  .error ("expected " ++ wanted ++ ", found " ++ v.noun)

/-- Reads a structure with fields of the given names. -/
def ofValue (names : List String) (v : Value) : Reading Fields :=
  match v with
  | .table entries =>
    match entries.find? (!names.contains ·.1) with
    | some (key, _) => .error ("unknown field '" ++ key ++ "'")
    | none => .ok ⟨entries⟩
  | .array items => .ok ⟨names.zip items⟩
  | v => unexpected "a table" v

/-- A field as `read` reads it, if it is there. -/
def get? {α : Type} (f : Fields) (name : String) (read : Value → Reading α) :
    Reading (Option α) :=
  match f.entries.lookup name with
  | none => .ok none
  | some v => (read v).map some

/-- A field as `read` reads it, or its default. -/
def getD {α : Type} (f : Fields) (name : String) (read : Value → Reading α) (absent : α) :
    Reading α :=
  (f.get? name read).map (·.getD absent)

end Fields

/-! ### Values -/

open Fields (unexpected)

def readString : Value → Reading String
  | .string s => .ok s
  | v => unexpected "a string" v

def readBoolean : Value → Reading Bool
  | .boolean b => .ok b
  | v => unexpected "a boolean" v

/-- A whole number of so many bits without a sign. -/
def readCount (bits : Nat) : Value → Reading Nat
  | .integer (some n) =>
    if 0 ≤ n ∧ n < Nat.pow 2 bits then .ok n.toNat
    else .error ("integer out of range: " ++ toString n)
  | v => unexpected "an integer" v

/-- Floats hold every integer that fits 64 bits, with or without a sign, as well as they can. -/
def inRange (n : Int) : Bool := -0x8000000000000000 ≤ n && n < 0x10000000000000000

def readSingle : Value → Reading Float32
  | .float (some x) => .ok x.toFloat32
  | .integer (some n) =>
    if inRange n then .ok (Float32.ofInt n)
    else .error ("integer out of range: " ++ toString n)
  | v => unexpected "a float" v

def readDouble : Value → Reading Float
  | .float (some x) => .ok x
  | .integer (some n) =>
    if inRange n then .ok (Float.ofInt n) else .error ("integer out of range: " ++ toString n)
  | v => unexpected "a float" v

/-- One of several names, as a string or as the only key of a table with nothing under it. -/
def readName {α : Type} (ofText? : String → Option α) (v : Value) : Reading α :=
  match v with
  | .string s | .table [(s, .table [])] | .table [(s, .array [])] =>
    match ofText? s with
    | some a => .ok a
    | none => .error ("unknown name '" ++ s ++ "'")
  | v => unexpected "a string" v

/-- A table of values of one kind, sorted by key. -/
def readTable {α : Type} (read : Value → Reading α) : Value → Reading (List (String × α))
  | .table entries => do
    let entries ← entries.mapM fun (key, v) => do return (key, ← read v)
    return entries.mergeSort fun a b => decide (a.1 ≤ b.1)
  | v => unexpected "a table" v

end FaultTolerance.Settings
