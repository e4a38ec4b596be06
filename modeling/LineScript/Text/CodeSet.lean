/-!
# Sets of characters by code point
A set is stored as the sorted code points at which membership changes, beginning with the first
member. A character belongs to the set when an odd number of changes lie at or below it.
-/
namespace LineScript.Text

/-- A set of characters, given by the code points where membership changes. -/
structure CodeSet where
  flips : Array Nat

namespace CodeSet

/-- How many of the changes between `low` and `high` lie at or below `code`, plus `low`. -/
def rank (flips : Array Nat) (code low high : Nat) : Nat :=
  if low < high then
    let middle := (low + high) / 2
    if flips.getD middle 0 ≤ code then rank flips code (middle + 1) high
    else rank flips code low middle
  else low
termination_by high - low

/-- Membership: an odd number of changes lie at or below the character. -/
def contains (set : CodeSet) (c : Char) : Bool :=
  rank set.flips c.toNat 0 set.flips.size % 2 == 1

end CodeSet

end LineScript.Text
