import FaultTolerance.Json.Reader
import FaultTolerance.Json.Writer
import FaultTolerance.Stack.Report

/-!
Telemetry records: one report of one instance, as text, and their form as JSON.

A record is written as an object with its fields in a fixed order. It is read from an object with
the fields in any order, each exactly once, among others that are passed over; or from an array of
the fields in the fixed order.
-/

namespace FaultTolerance.Telemetry

structure Record where
  /-- The family of the instance. -/
  primitive : String
  /-- The name of the instance. -/
  name : String
  kind : String
  timestamp : String
  detail : String
  deriving DecidableEq, Repr, Inhabited

namespace Record

def ofReport (timestamp name : String) (r : Stack.Report) : Record :=
  { primitive := r.primitive, name, kind := r.kind, timestamp, detail := r.describe }

/-- The names of the fields, in order. -/
def fieldNames : List String := ["primitive", "name", "kind", "timestamp", "detail"]

def toList (r : Record) : List String := [r.primitive, r.name, r.kind, r.timestamp, r.detail]

def ofList? : List String → Option Record
  | [primitive, name, kind, timestamp, detail] =>
    some { primitive, name, kind, timestamp, detail }
  | _ => none

def toJson (r : Record) : Json := .object (fieldNames.zip (r.toList.map .string))

def text (r : Record) : String := r.toJson.text

/-! ### Reading -/

open Json (skipBlanks stringAt? value?)

/-- The members of an object up to its end, those of them that are fields. -/
def members? : (fuel : Nat) → List Char → Option (List (String × String) × List Char)
  | 0, _ => none
  | fuel + 1, text => do
    let (key, rest) ← stringAt? false (skipBlanks text)
    let rest ← Text.after? [':'] (skipBlanks rest)
    let (field, rest) ←
      if key ∈ fieldNames then
        (stringAt? false (skipBlanks rest)).map fun (s, rest) => ([(key, s)], rest)
      else (value? true (2 * rest.length + 1) rest).map fun (_, rest) => ([], rest)
    match skipBlanks rest with
    | '\x7d' :: rest => return (field, rest)
    | ',' :: rest =>
      let (fields, rest) ← members? fuel rest
      return (field ++ fields, rest)
    | _ => none

/-- The fields of a record out of the members of an object, if each is there exactly once. -/
def ofFields? (fields : List (String × String)) : Option Record :=
  if fields.length = fieldNames.length then
    (fieldNames.mapM fun name => List.lookup name fields).bind ofList?
  else none

/-- The strings of an array up to its end. -/
def items? : (fuel : Nat) → List Char → Option (List String × List Char)
  | 0, _ => none
  | fuel + 1, text => do
    let (item, rest) ← stringAt? false (skipBlanks text)
    match skipBlanks rest with
    | ']' :: rest => return ([item], rest)
    | ',' :: rest =>
      let (items, rest) ← items? fuel rest
      return (item :: items, rest)
    | _ => none

/-- A record at the front of a text. -/
def at? (text : List Char) : Option (Record × List Char) :=
  match skipBlanks text with
  | '\x7b' :: rest => do
    let (fields, rest) ← members? (rest.length + 1) rest
    return (← ofFields? fields, rest)
  | '[' :: rest => do
    let (items, rest) ← items? (rest.length + 1) rest
    return (← ofList? items, rest)
  | _ => none

def ofText? (s : String) : Option Record := do
  let (r, rest) ← at? s.toList
  if (skipBlanks rest).isEmpty then some r else none

end Record

end FaultTolerance.Telemetry
