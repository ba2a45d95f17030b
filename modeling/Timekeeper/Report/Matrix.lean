import Timekeeper.Report.Duration
import Timekeeper.Report.Layout
import Timekeeper.Score

/-!
# The matrix of durations

One row for each test in the order of declaration, and one column for each language in the
order given. A language whose program failed has no duration in any row.
-/

namespace Timekeeper

namespace Report

/-- The width of the column of labels. -/
def labelWidth : Nat := 20

/-- The width of the column of a language. -/
def cellWidth : Nat := 14

/-- A row: a label, and a cell for each language behind a space. -/
def matrixRow (label : List Char) (cells : List (List Char)) : Line :=
  Text.trimEnd ([' ', ' '] ++ Text.padRight labelWidth label ++
    cells.flatMap fun cell => ' ' :: Text.padRight cellWidth cell)

/-- The cell of a test in the column of a language. -/
def cell (t : Test) (s : Score) : List Char := duration (s.measurement? t.id)

/-- The lines of the matrix. -/
def matrix (g : Grammar) (scores : List Score) : List Line :=
  matrixRow "Test".toList (scores.map (·.language.toList)) ::
    ([' ', ' '] ++ rule (labelWidth + (cellWidth + 1) * scores.length) '-') ::
    g.tests.map fun t => matrixRow t.label.toList (scores.map (cell t))

theorem length_matrix (g : Grammar) (scores : List Score) :
    (matrix g scores).length = g.tests.length + 2 := by
  simp [matrix]

end Report

end Timekeeper
