/-!
# Sets of characters as boundary lists

A property of characters is stored as the increasing list of the code points at which
membership changes: the first code point inside, the first one outside again, and so on.
Membership walks the list and stops at the first boundary beyond the character.
-/

namespace Timekeeper

namespace Unicode

/-- A set of code points, as the increasing list of the points where membership changes. -/
structure CodeSet where
  boundaries : List Nat

namespace CodeSet

/-- Whether a code point lies behind an odd number of boundaries. -/
def inside : List Nat → Nat → Bool
  | [], _ => false
  | [first], point => first ≤ point
  | first :: stop :: rest, point =>
    if point < first then false else if point < stop then true else inside rest point

/-- Whether a character belongs to the set. -/
def contains (s : CodeSet) (c : Char) : Bool := inside s.boundaries c.toNat

end CodeSet

end Unicode

end Timekeeper
