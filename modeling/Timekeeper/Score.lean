import Timekeeper.Execution
import Timekeeper.Readout

/-!
# Scores

A **score** is what is known about one language after its program was run: the durations of
its tests and a total, or why there are none. A total that the program states wins over its
tests; without one the tests are added up in the order of their identifiers.
-/

namespace Timekeeper

/-- What came of running a program. -/
inductive Outcome where
  | measured (measurements : Measurements) (total : Option Binary64)
  | failed (error : String)
deriving DecidableEq

/-- What is known about one language. -/
structure Score where
  language : String
  outcome : Outcome
deriving DecidableEq

namespace Score

/-- The total of a readout: the one stated, or else the sum of the tests if there are any. -/
def totalOf (r : Readout) : Option Binary64 :=
  match r.total with
  | some total => some total
  | none => if r.measurements.isEmpty then none else some (.sum (r.measurements.map Prod.snd))

/-- The score of a readout. -/
def ofReadout (language : String) (r : Readout) : Score :=
  ⟨language, .measured r.measurements (totalOf r)⟩

/-- The score of a language whose program failed. -/
def failed (language error : String) : Score := ⟨language, .failed error⟩

/-- The score of an execution: the readout of what it printed if it completed. -/
def ofExecution (g : Grammar) (e : Execution) : Score :=
  if e.status.isCompleted then ofReadout e.language (.ofText g e.output.toList)
  else failed e.language e.status.message

/-- The durations of the tests; none for a failed program. -/
def measurements (s : Score) : Measurements :=
  match s.outcome with
  | .measured m _ => m
  | .failed _ => []

/-- The duration of a test. -/
def measurement? (s : Score) (id : String) : Option Binary64 := s.measurements.get? id

/-- The total. -/
def total? (s : Score) : Option Binary64 :=
  match s.outcome with
  | .measured _ total => total
  | .failed _ => none

/-- Why the program failed. -/
def error? (s : Score) : Option String :=
  match s.outcome with
  | .measured _ _ => none
  | .failed error => some error

/-- Whether the language takes part in the ranking: its total is above zero. -/
def isRanked (s : Score) : Bool := s.total?.any (·.isPositive)

/-- The tests that a completed program did not report, in the order of declaration. A failed
program says why by its error, so nothing is listed for it. -/
def missingTests (g : Grammar) (s : Score) : List Test :=
  match s.outcome with
  | .measured m _ => g.tests.filter fun t => (m.get? t.id).isNone
  | .failed _ => []

end Score

end Timekeeper
