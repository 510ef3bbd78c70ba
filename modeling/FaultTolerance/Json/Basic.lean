/-!
JSON values. Numbers are kept as they are written, so that a reader of them chooses the precision;
an object keeps its members in order, with repeated names.
-/

namespace FaultTolerance

/-- A number as written: `digits * 10 ^ exponent` with its sign, which a zero may have too. -/
structure Json.Number where
  negative : Bool := false
  digits : Nat
  exponent : Int := 0
  /-- Whether it is written without a point and without an exponent. -/
  whole : Bool := true
  deriving DecidableEq, Repr, Inhabited

inductive Json where
  | null
  | boolean (b : Bool)
  | number (n : Json.Number)
  | string (s : String)
  | array (items : List Json)
  | object (members : List (String × Json))
  deriving Repr, Inhabited

namespace Json

def ofNat (n : Nat) : Json := .number { digits := n }

def ofInt (n : Int) : Json := .number { negative := n < 0, digits := n.natAbs }

/-- The first member of the given name. -/
def get? (j : Json) (name : String) : Option Json :=
  match j with
  | object members => (members.find? (·.1 = name)).map (·.2)
  | _ => none

/-- The double that is nearest to a number. -/
def Number.toFloat (n : Number) : Float :=
  let size := Float.ofScientific n.digits (n.exponent < 0) n.exponent.natAbs
  if n.negative then -size else size

/-! ### Readings with a value for what is absent or of another kind -/

def toStr : Json → String
  | string s => s
  | _ => ""

def toInt : Json → Int
  | number n => if n.negative then -n.digits else n.digits
  | _ => 0

def toBool : Json → Bool
  | boolean b => b
  | _ => false

def toItems : Json → List Json
  | array items => items
  | _ => []

/-- A member, `null` when there is none of this name. -/
def field (j : Json) (name : String) : Json := (j.get? name).getD null

/-- Whether there is a member of this name that is not `null`. -/
def has (j : Json) (name : String) : Bool :=
  match j.field name with
  | null => false
  | _ => true

/-- A member as `read` reads it. -/
def fieldOr {α : Type} (j : Json) (name : String) (read : Json → α) (absent : α) : α :=
  if j.has name then read (j.field name) else absent

def int (j : Json) (name : String) (absent : Int := 0) : Int := j.fieldOr name toInt absent

def nat (j : Json) (name : String) (absent : Nat := 0) : Nat := (j.int name absent).toNat

def str (j : Json) (name : String) : String := (j.field name).toStr

def flag (j : Json) (name : String) : Bool := (j.field name).toBool

def items (j : Json) (name : String) : List Json := (j.field name).toItems

end Json

end FaultTolerance
