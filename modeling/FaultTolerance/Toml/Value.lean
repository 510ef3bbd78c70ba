/-!
The values of a TOML document. Dates and times are only recognised; nothing here looks into them.

A number may be spelled in a way that has the look of a number and no value, such as `1_a` or a
float beyond all floats. A document may hold it as long as nobody asks for its value.
-/

namespace FaultTolerance.Toml

inductive Value where
  | string (s : String)
  | integer (n : Option Int)
  | float (x : Option Float)
  | boolean (b : Bool)
  | moment
  | array (items : List Value)
  | table (entries : List (String × Value))
  deriving Inhabited

/-- What a value is called in an error text. -/
def Value.noun : Value → String
  | string _ => "a string"
  | integer _ => "an integer"
  | float _ => "a float"
  | boolean _ => "a boolean"
  | moment => "a date or time"
  | array _ => "an array"
  | table _ => "a table"

end FaultTolerance.Toml
