/-!
# Grammar tables

A **table** lists the tests that a benchmark program reports: for each an identifier, a
label for people, and a marker, the pattern of what stands in front of its measurement. One
more marker stands in front of the total.
-/

namespace Timekeeper

/-- One test of a table. -/
structure Entry where
  id : String
  label : String
  marker : String
deriving DecidableEq

/-- The tests in the order in which they are declared, and the marker of the total. -/
structure Table where
  tests : List Entry
  total : String
deriving DecidableEq

end Timekeeper
