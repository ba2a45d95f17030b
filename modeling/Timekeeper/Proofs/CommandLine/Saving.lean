import Timekeeper.Bench.Basic
import Timekeeper.CommandLine
import Timekeeper.Proofs.FileTree.Write
import Timekeeper.Proofs.Readout.Extraction
import Timekeeper.Proofs.Session.Account

/-!
# A report that cannot be saved

A comparison saves its report at the end. How a machine does that is a way of **saving** (`Saving`),
which can fail with any fault. A session saves nothing, so it comes to the same on two machines that
differ in this alone (`Session.run_saving`), and so does the report. Hence a fault costs the line on
the saved report, and a warning tells of it; all else is printed as before, and the exit code is
that of success (`CommandLine.run_shows_report`).

If the files of a machine are those of a tree and saving **writes** them, the file has the same
ranking as the report that was shown, and nothing of what it held before.
-/

namespace Timekeeper

variable {σ : Type}

namespace CommandLine

/-! ### What is printed -/

/-- The path of the report. -/
abbrev reportPath : String := Settings.standard.reportPath

/-- The line with which a comparison begins. -/
def startText (style : Style) : String :=
  "    " ++ style.green "Starting" ++ " Cross-language micro-benchmark comparator v1.0.0"

/-- The line on a report that was saved. -/
def savedText (style : Style) : String :=
  "       " ++ style.green "Saved" ++ " report to \"./benchmark_results.txt\""

/-- The line on a report that could not be saved, up to what the system says about that. -/
def warningText (style : Style) : String :=
  "     " ++ style.yellow "Warning" ++ " Report file \"./benchmark_results.txt\" writing: "

/-- The line with which a comparison ends. -/
def endText (style : Style) (languages : Nat) (elapsed : Binary64) : String :=
  "    " ++ style.green "Finished" ++ " comparison of " ++ Nat.repr languages ++
    " languages in " ++ String.ofList (Binary64.fixed 3 elapsed) ++ "s"

/-- What is **shown** before a report is saved. -/
def shown (style : Style) (session : Session) (report : Report) : String :=
  startText style ++ "\n" ++ session.transcript style ++ "\n" ++ report.console

/-- What is printed last. -/
def closing (style : Style) (session : Session) (report : Report) : String :=
  endText style session.scores.length report.occasion.seconds ++ "\n"

/-- How a comparison **ends** that came to a session and a report, given what came of saving the
report: its printout and the state that it leaves. -/
structure Ends (style : Style) (session : Session) (report : Report)
    (saved : Except Fault Unit × σ) (ended : Printout × σ) : Prop where
  code_eq : ended.1.code = 0
  state_eq : ended.2 = saved.2
  /-- Exactly if the report was saved, a line on it stands behind the report. -/
  saved_iff : saved.1 = .ok () ↔ ended.1.output =
    shown style session report ++ (savedText style ++ "\n") ++ closing style session report
  line_saved : '\n' ∉ (savedText style).toList
  /-- Exactly if the report was saved, there is no error. -/
  quiet_iff : saved.1 = .ok () ↔ ended.1.errors = ""
  /-- If it was not saved, there is no line on it, and one warning, which ends in the fault. -/
  of_fault : ∀ fault, saved.1 = .error fault →
    ended.1.output = shown style session report ++ closing style session report ∧
      ended.1.errors = warningText style ++ fault.message ++ "\n"
  line_warning : '\n' ∉ (warningText style).toList

end CommandLine

end Timekeeper
