import Timekeeper.Binary64.Decimal
import Timekeeper.Grammar.Basic
import Timekeeper.TimeUnit

/-!
# Readouts

A **readout** is what a grammar finds in the text that a benchmark program printed: the
durations of the tests it could find, in milliseconds and in the order of their identifiers,
and the total if the text states one. Every test is looked for in the whole text, so a test
that is missing or misprinted changes nothing about the others.
-/

namespace Timekeeper

/-- Durations by identifier, in the order of the identifiers' characters. -/
abbrev Measurements := List (String × Binary64)

namespace Measurements

/-- Sets the duration of an identifier. -/
def insert (id : String) (value : Binary64) : Measurements → Measurements
  | [] => [(id, value)]
  | (other, old) :: rest =>
    if id < other then (id, value) :: (other, old) :: rest
    else if id = other then (id, value) :: rest
    else (other, old) :: insert id value rest

/-- The durations of a list of pairs, of which later ones replace earlier ones. -/
def ofList (pairs : List (String × Binary64)) : Measurements :=
  pairs.foldl (fun m pair => insert pair.1 pair.2 m) []

/-- The duration of an identifier. -/
def get? (m : Measurements) (id : String) : Option Binary64 := m.lookup id

end Measurements

/-- The durations found in a text, and the total that it states. -/
structure Readout where
  measurements : Measurements
  total : Option Binary64
deriving DecidableEq

namespace Readout

/-- The duration in milliseconds that a number and a unit write, if it is one: neither
negative nor beyond all finite numbers. -/
def duration? (value unit : List Char) : Option Binary64 :=
  match Binary64.read? value, TimeUnit.read (String.ofList unit) with
  | some x, .ok u =>
    let ms := u.toMilliseconds x
    if ms.isFinite && Binary64.zero.le ms then some ms else none
  | _, _ => none

/-- The duration that the first match of a pattern states. A match in which the number or the
unit took no part states none. -/
def find? (plan : Pattern.Plan) (text : List Char) : Option Binary64 :=
  match plan.search? text with
  | none => none
  | some captures =>
    match captures.text? Grammar.valueName.toList, captures.text? Grammar.unitName.toList with
    | some value, some unit => duration? value unit
    | _, _ => none

/-- What a grammar finds in a text. -/
def ofText (g : Grammar) (text : List Char) : Readout where
  measurements := .ofList (g.tests.filterMap fun t => (find? t.plan text).map fun ms => (t.id, ms))
  total := find? g.totalPlan text

/-- Whether nothing was found. -/
def isEmpty (r : Readout) : Bool := r.measurements.isEmpty && r.total.isNone

end Readout

end Timekeeper
