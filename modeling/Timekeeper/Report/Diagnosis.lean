import Timekeeper.Report.Layout
import Timekeeper.Score
import Timekeeper.Text.Lines

/-!
# Diagnoses

What went wrong, language by language: the error of a program that failed, or the tests that
a completed one did not report. Nothing is said about a language of which all is known.
-/

namespace Timekeeper

namespace Report

/-- The lines of an error: the first behind the name of the language, the others indented. -/
def errorBlock (language : String) (error : List Char) : List Line :=
  let lines := Text.lines error
  ([' ', ' '] ++ language.toList ++ ": skipped, ".toList ++ lines.headD []) ::
    lines.tail.map fun line => List.replicate 6 ' ' ++ line

/-- The line on tests that were not reported. -/
def missingBlock (language : String) (labels : List String) : List Line :=
  [[' ', ' '] ++ language.toList ++ ": not reported: ".toList ++ joined ", " labels]

/-- What is said about one language. -/
def diagnosisOf (g : Grammar) (s : Score) : List Line :=
  match s.error? with
  | some error => errorBlock s.language error.toList
  | none =>
    match s.missingTests g with
    | [] => []
    | missing => missingBlock s.language (missing.map Test.label)

/-- The lines of all diagnoses. -/
def diagnosis (g : Grammar) (scores : List Score) : List Line := scores.flatMap (diagnosisOf g)

/-- Whether all is known about every language. -/
def nothingToSay (g : Grammar) (scores : List Score) : Bool :=
  scores.all fun s => s.error?.isNone && (s.missingTests g).isEmpty

end Report

end Timekeeper
