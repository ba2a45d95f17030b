import Timekeeper.Session

/-!
# The command line

A whole comparison: languages are measured, the report is shown and then saved. The report has
been shown before it is saved, and a report that cannot be saved costs a warning on the error
channel and nothing else.
-/

namespace Timekeeper

/-- What a finished command leaves: its exit code and what it printed on its two channels. -/
structure Printout where
  code : Nat
  output : String
  errors : String
deriving DecidableEq

namespace Printout

/-- The exit code of a comparison that was made. -/
def success : Nat := 0

/-- The exit code of a comparison that could not be made. -/
def failure : Nat := 1

end Printout

namespace CommandLine

/-- What the program is. -/
def description : String := "Cross-language micro-benchmark comparator"

/-- The version of the program. -/
def version : String := "1.0.0"

/-- The line with which every comparison begins. -/
def startLine (style : Style) : String :=
  "    " ++ style.paint .good "Starting" ++ " " ++ description ++ " v" ++ version

/-- The line about a report that was saved. -/
def savedLine (style : Style) (path : String) : String :=
  "       " ++ style.paint .good "Saved" ++ " report to " ++
    String.ofList (Text.quoted path.toList)

/-- What is said about a report that could not be saved. -/
def saveFailure (path : String) (fault : Fault) : String :=
  "Report file " ++ String.ofList (Text.quoted path.toList) ++ " writing: " ++ fault.message

/-- The line about a report that could not be saved. -/
def warningLine (style : Style) (path : String) (fault : Fault) : String :=
  "     " ++ style.paint .poor "Warning" ++ " " ++ saveFailure path fault

/-- The line with which every comparison ends. -/
def endLine (style : Style) (languages : Nat) (elapsed : Binary64) : String :=
  "    " ++ style.paint .good "Finished" ++ " comparison of " ++
    String.ofList (Report.numeral languages) ++ " languages in " ++
    String.ofList (Binary64.fixed 3 elapsed) ++ "s"

/-- What is said where the standard table is no grammar. -/
def grammarFailure (e : GrammarError) : String := "Measurement grammar loading: " ++ e.message

/-- The report of a session. -/
def reportOf (settings : Settings) (g : Grammar) (session : Session) (occasion : Occasion) :
    Report where
  grammar := g
  scores := session.scores
  ranking := .ofScores session.scores
  occasion := occasion
  subject := settings.subject
  baseline := settings.baseline

/-- What a comparison prints, given whether its report could be saved. -/
def printout (style : Style) (path : String) (session : Session) (report : Report)
    (saved : Except Fault Unit) : Printout where
  code := Printout.success
  output :=
    startLine style ++ "\n" ++ session.transcript style ++ "\n" ++ report.console ++
      (match saved with
        | .ok () => savedLine style path ++ "\n"
        | .error _ => "") ++
      endLine style session.scores.length report.occasion.seconds ++ "\n"
  errors :=
    match saved with
    | .ok () => ""
    | .error fault => warningLine style path fault ++ "\n"

/-- Makes a comparison with a grammar. -/
def compare (m : Machine σ) (settings : Settings) (style : Style) (g : Grammar) :
    StateM σ Printout := do
  let start := m.now (← get)
  let session ← Session.run m settings.toWorkplace g settings.languages
  let report := reportOf settings g session ⟨start, m.now (← get), m.platform⟩
  let saved ← m.save settings.reportPath report.file
  return printout style settings.reportPath session report saved

/-- Makes the standard comparison. -/
def run (m : Machine σ) (style : Style) : StateM σ Printout := do
  match Grammar.standard with
  | .ok g => compare m .standard style g
  | .error e =>
    return ⟨Printout.failure, startLine style ++ "\n", grammarFailure e ++ "\n"⟩

end CommandLine

end Timekeeper
