import Timekeeper.Binary64.Arithmetic
import Timekeeper.Unicode.LowerCase

/-!
# Units of time

The four units in which a program may state a duration, their spellings, and the conversion
to milliseconds, the unit in which this library keeps every duration.
-/

namespace Timekeeper

/-- A **unit of time**. -/
inductive TimeUnit where
  | seconds
  | milliseconds
  | microseconds
  | nanoseconds
deriving DecidableEq

namespace TimeUnit

/-- The units from the largest to the smallest. -/
def all : List TimeUnit := [seconds, milliseconds, microseconds, nanoseconds]

theorem mem_all (u : TimeUnit) : u ∈ all := by cases u <;> decide

/-- The symbol of a unit. -/
def symbol : TimeUnit → String
  | seconds => "s"
  | milliseconds => "ms"
  | microseconds => "µs"
  | nanoseconds => "ns"

/-- The spellings of a unit: microseconds may be written with the micro sign, with the Greek
letter or with a plain u. -/
def spellings : TimeUnit → List String
  | seconds => ["s"]
  | milliseconds => ["ms"]
  | microseconds => ["µs", "μs", "us"]
  | nanoseconds => ["ns"]

/-- A duration in this unit, converted to milliseconds. -/
def toMilliseconds (u : TimeUnit) (value : Binary64) : Binary64 :=
  match u with
  | seconds => value * .ofNat 1000
  | milliseconds => value
  | microseconds => value / .ofNat 1000
  | nanoseconds => value / .ofNat 1000000

/-- A spelling that names no unit, in lower case. -/
structure Unknown where
  spelling : String
deriving DecidableEq

/-- What is said about an unknown unit. -/
def Unknown.message (e : Unknown) : String :=
  "Unknown time unit `" ++ e.spelling ++ "`. Supported units: " ++
    ", ".intercalate (all.map symbol)

/-- The unit of a spelling, in any case. -/
def read (spelling : String) : Except Unknown TimeUnit :=
  let lower := String.ofList (Unicode.lowerText spelling.toList)
  match all.find? (·.spellings.contains lower) with
  | some u => .ok u
  | none => .error ⟨lower⟩

end TimeUnit

end Timekeeper
