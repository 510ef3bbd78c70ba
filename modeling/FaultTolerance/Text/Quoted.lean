import FaultTolerance.Text.Hidden

/-!
Quoted text: double quotes around, a backslash before a quote or a backslash, names for the common
controls, and the code point for every other character that would not show.
-/

namespace FaultTolerance.Text

/-- A character as it stands inside a quoted text. -/
def escaped (c : Char) : String :=
  match c with
  | '"' => "\\\""
  | '\\' => "\\\\"
  | '\t' => "\\t"
  | '\r' => "\\r"
  | '\n' => "\\n"
  | c =>
    if c.toNat = 0 then "\\0"
    else if isHidden c then
      "\\u\x7b" ++ String.ofList (Nat.toDigits 16 c.toNat) ++ "\x7d"
    else c.toString

def quoted (s : String) : String :=
  "\"" ++ String.join (s.toList.map escaped) ++ "\""

end FaultTolerance.Text
