import Timekeeper.Ranking
import Timekeeper.Report.Duration
import Timekeeper.Report.Layout

/-!
# The ranked totals

A table of the languages that take part in the ranking, the fastest first, with medals for
the first three, and the shorter list of the same totals that is kept in a file.
-/

namespace Timekeeper

namespace Report

/-- Printed when no language takes part. -/
def nobodyRanked : Line := "  No language reported a valid total.".toList

/-- The mark of the fastest language. -/
def fastestMark : List Char := "🏆 FASTEST".toList

/-- The medal of a position. -/
def medal : Nat → List Char
  | 1 => ['🥇']
  | 2 => ['🥈']
  | 3 => ['🥉']
  | _ => [' ', ' ']

/-- How many times slower than the fastest a language is. -/
def slowdown (p : Placing) : List Char :=
  match p.ratio with
  | some ratio =>
    if p.isFastest then fastestMark
    else "📉 ".toList ++ ratio.fixed 2 ++ "x slower".toList
  | none => fastestMark

/-- A row of the table. -/
def podiumRow (p : Placing) : Line :=
  [' ', ' '] ++ medal p.position ++ [' '] ++ Text.padRight 3 (numeral p.position) ++ [' '] ++
    Text.padRight 15 p.language.toList ++ [' '] ++ Text.padRight 18 (duration (some p.total)) ++
    [' '] ++ slowdown p

/-- The lines of the table. -/
def podium (r : Ranking) : List Line :=
  if r.isEmpty then [nobodyRanked]
  else
    ([' ', ' '] ++ Text.padRight 6 "Rank".toList ++ [' '] ++ Text.padRight 15 "Language".toList ++
      [' '] ++ Text.padRight 18 "Total".toList ++ [' '] ++ "Comparison".toList) ::
    ([' ', ' '] ++ rule 70 '-') ::
    r.placings.map podiumRow

/-- A numbered line of the list. -/
def numberedLine (p : Placing) : Line :=
  numeral p.position ++ ". ".toList ++ p.language.toList ++ ": ".toList ++ duration (some p.total)

end Report

end Timekeeper
