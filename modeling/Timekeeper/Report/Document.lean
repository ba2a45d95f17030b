import Timekeeper.Calendar
import Timekeeper.Report.Diagnosis
import Timekeeper.Report.Matrix
import Timekeeper.Report.Narrative

/-!
# The whole report

The report that is shown has all parts under banners; the one that is kept in a file has the
ranked totals alone.
-/

namespace Timekeeper

/-- When and where a comparison was made. -/
structure Occasion where
  start : Instant
  stop : Instant
  platform : String
deriving DecidableEq

namespace Occasion

/-- The date and the time of day at which the comparison began. -/
def date (o : Occasion) : String := String.ofList o.start.text

/-- How many seconds the comparison took. -/
def seconds (o : Occasion) : Binary64 := o.start.secondsTo o.stop

end Occasion

/-- All that a report tells of. -/
structure Report where
  grammar : Grammar
  scores : List Score
  ranking : Ranking
  occasion : Occasion
  subject : String
  baseline : String

namespace Report

/-- The title of every report. -/
def title : String := "MULTI-LANGUAGE PERFORMANCE COMPARISON"

/-- The languages of a report. -/
def languages (r : Report) : Line := joined " vs " (r.scores.map Score.language)

/-- The lines on when and where the comparison was made. -/
def occasionLines (r : Report) : List Line :=
  ["Date: ".toList ++ r.occasion.date.toList, "Platform: ".toList ++ r.occasion.platform.toList]

/-- The part on what went wrong, if anything did. -/
def diagnosisPart (r : Report) : List Line :=
  if nothingToSay r.grammar r.scores then []
  else banner "DIAGNOSTICS" ++ [[]] ++ diagnosis r.grammar r.scores ++ [[]]

/-- The lines of the report that is shown. -/
def consoleLines (r : Report) : List Line :=
  banner title ++ [r.languages] ++ r.occasionLines ++ [[]] ++
    banner "DETAILED RESULTS" ++ [[]] ++ matrix r.grammar r.scores ++ [[]] ++
    banner "TOTAL TIME COMPARISON" ++ [[]] ++ podium r.ranking ++ [[]] ++
    banner "SUMMARY" ++ [[]] ++ narrative r.ranking r.subject r.baseline ++ [[]] ++
    r.diagnosisPart ++ [rule width '=']

/-- The report that is shown. -/
def console (r : Report) : String := String.ofList (closed r.consoleLines)

/-- The lines of the report that is kept in a file. -/
def fileLines (r : Report) : List Line :=
  [rule width '=', title.toList, r.languages, rule width '='] ++ r.occasionLines ++
    [[], rule width '-', "TOTAL TIMES (RANKED)".toList, rule width '-', []] ++
    r.ranking.placings.map numberedLine ++ [[], rule width '=']

/-- The report that is kept in a file. -/
def file (r : Report) : String := String.ofList (closed r.fileLines)

end Report

end Timekeeper
