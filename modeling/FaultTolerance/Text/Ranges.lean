/-!
Sets of characters given by the first and last code points of their runs, in ascending order.
-/

namespace FaultTolerance.Text

/-- Whether the code point lies in one of the runs from `low` up to but not including `high`,
halving the stretch each time. -/
def withinRanges (table : Array (Nat × Nat)) (code : Nat) : (fuel low high : Nat) → Bool
  | 0, _, _ => false
  | fuel + 1, low, high =>
    if low < high then
      let middle := (low + high) / 2
      match table[middle]? with
      | some (first, last) =>
        if code < first then withinRanges table code fuel low middle
        else if last < code then withinRanges table code fuel (middle + 1) high
        else true
      | none => false
    else false

/-- Whether a character belongs to the set of a table. A stretch is halved at most as often as it
is long. -/
def isAmong (table : Array (Nat × Nat)) (c : Char) : Bool :=
  withinRanges table c.toNat (table.size + 1) 0 table.size

end FaultTolerance.Text
