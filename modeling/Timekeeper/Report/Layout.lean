import Timekeeper.Text.Blank
import Timekeeper.Text.Padding

/-!
# Layout

Every part of a report is a list of lines. A line is closed by a line feed; columns are
fields of a fixed width, counted in characters.
-/

namespace Timekeeper

namespace Report

/-- A line of a report, without its line feed. -/
abbrev Line := List Char

/-- The text of some lines. -/
def closed (lines : List Line) : List Char := lines.flatMap (· ++ ['\n'])

/-- The width of a report. -/
def width : Nat := 80

/-- A line of one repeated sign. -/
def rule (length : Nat) (sign : Char) : Line := List.replicate length sign

/-- Texts with a separator between them. -/
def joined (separator : String) (texts : List String) : List Char :=
  (separator.intercalate texts).toList

/-- The decimal digits of a number. -/
def numeral (n : Nat) : List Char := Nat.toDigits 10 n

/-- A title between two double rules. -/
def banner (title : String) : List Line :=
  [rule width '=', Text.trimEnd (Text.center width title.toList), rule width '=']

theorem closed_append (a b : List Line) : closed (a ++ b) = closed a ++ closed b := by
  simp [closed]

end Report

end Timekeeper
