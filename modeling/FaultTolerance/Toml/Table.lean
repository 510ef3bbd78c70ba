import FaultTolerance.Toml.Value

/-!
How the tables of a document grow.

A header opens a table under its path, and the tables on the way to it come into being without
being opened. A dotted key does the same inside of the open table. A table is opened by one header
at most; dotted keys enter only tables that dotted keys have made; and nothing enters a value. A
header in double brackets adds a table to a row of tables, and a path through the row leads to its
last one.
-/

namespace FaultTolerance.Toml

/-- How a table came into being. -/
inductive Role where
  /-- On the way to the table of a header. -/
  | passed
  /-- Through a dotted key. -/
  | dotted
  /-- By a header of its own. -/
  | opened
  deriving DecidableEq, Repr

inductive Node where
  | value (v : Value)
  | table (role : Role) (entries : List (String × Node))
  | row (tables : List (List (String × Node)))

abbrev Entries : Type := List (String × Node)

namespace Entries

def find? (es : Entries) (key : String) : Option Node := es.lookup key

/-- Puts a node in the place of the one of the same key. -/
def replace (es : Entries) (key : String) (n : Node) : Entries :=
  es.map fun (k, old) => if k = key then (k, n) else (k, old)

/-- Changes the table under a path. `role` is the role of the table that the path starts at. -/
def modify (byKey : Bool) (change : Role → Entries → Option Entries) :
    (path : List String) → (role : Role) → Entries → Option Entries
  | [], role, es => change role es
  | key :: path, _, es =>
    match find? es key with
    | none => do
      let role := if byKey then .dotted else .passed
      let inner ← modify byKey change path role []
      return es ++ [(key, .table role inner)]
    | some (.table role inner) =>
      if byKey && role = .opened then none
      else do
        let inner ← modify byKey change path role inner
        return replace es key (.table role inner)
    | some (.row tables) =>
      match tables.getLast? with
      | none => none
      | some last => do
        let last ← modify byKey change path .opened last
        return replace es key (.row (tables.dropLast ++ [last]))
    | some (.value _) => none

/-- Adds an entry to the table under a key's path. -/
def addPair (key : List String) (n : Node) (role : Role) (es : Entries) : Option Entries :=
  match key.getLast? with
  | none => none
  | some name =>
    let path := key.dropLast
    modify true
      (fun role es =>
        if (role = .dotted) != !path.isEmpty || (find? es name).isSome then none
        else some (es ++ [(name, n)]))
      path role es

/-- Opens the table of a header. -/
def openTable (path : List String) (es : Entries) : Option Entries := do
  let name ← path.getLast?
  modify false
    (fun _ es =>
      match find? es name with
      | none => some (es ++ [(name, .table .opened [])])
      | some (.table .passed inner) => some (replace es name (.table .opened inner))
      | _ => none)
    path.dropLast .opened es

/-- Adds a table to the row of a header in double brackets. -/
def openRow (path : List String) (es : Entries) : Option Entries := do
  let name ← path.getLast?
  modify false
    (fun _ es =>
      match find? es name with
      | none => some (es ++ [(name, .row [[]])])
      | some (.row tables) => some (replace es name (.row (tables ++ [[]])))
      | _ => none)
    path.dropLast .opened es

/-- Adds an entry to the table that the last header has opened. -/
def addUnder (header key : List String) (n : Node) (es : Entries) : Option Entries :=
  modify false (addPair key n) header .opened es

end Entries

mutual

/-- The value that a node has grown to. -/
def Node.toValue : Node → Value
  | .value v => v
  | .table _ entries => .table (entryValues entries)
  | .row tables => .array (rowValues tables)

def entryValues : List (String × Node) → List (String × Value)
  | [] => []
  | (key, n) :: rest => (key, n.toValue) :: entryValues rest

def rowValues : List (List (String × Node)) → List Value
  | [] => []
  | entries :: rest => .table (entryValues entries) :: rowValues rest

end

end FaultTolerance.Toml
