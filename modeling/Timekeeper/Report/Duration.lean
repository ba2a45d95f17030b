import Timekeeper.Binary64.Fixed

/-!
# Printed durations

A duration in milliseconds is printed in the unit that suits its size. The unit is chosen by
the value itself, before rounding, so a value just below one millisecond may print as a
thousand microseconds.
-/

namespace Timekeeper

namespace Report

/-- Printed where there is no duration. -/
def notAvailable : String := "N/A"

/-- Printed for a duration of zero. -/
def tooFast : String := "~0 µs"

/-- A duration in the most readable unit: microseconds below one millisecond, seconds from one
second on, and milliseconds between. -/
def duration : Option Binary64 → List Char
  | none => notAvailable.toList
  | some ms =>
    if ms.eq .zero then tooFast.toList
    else if ms.lt .one then (ms * .ofNat 1000).fixed 2 ++ " µs".toList
    else if ms.lt (.ofNat 1000) then ms.fixed 3 ++ " ms".toList
    else (ms / .ofNat 1000).fixed 3 ++ " s".toList

end Report

end Timekeeper
