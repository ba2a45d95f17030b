import Timekeeper.Main
import Timekeeper.Proofs.Binary64.Fixed
import Timekeeper.Proofs.Binary64.Literal
import Timekeeper.Proofs.Binary64.Nearest
import Timekeeper.Proofs.Binary64.Order
import Timekeeper.Proofs.Binary64.Quotient
import Timekeeper.Proofs.Binary64.Sum
import Timekeeper.Proofs.Calendar.Timestamp
import Timekeeper.Proofs.Captured.Lines
import Timekeeper.Proofs.CommandLine.Saving
import Timekeeper.Proofs.FileTree.Discard
import Timekeeper.Proofs.FileTree.Write
import Timekeeper.Proofs.Grammar.Marker
import Timekeeper.Proofs.Grammar.Stored
import Timekeeper.Proofs.Pattern.Measured
import Timekeeper.Proofs.Pattern.Runs
import Timekeeper.Proofs.Pattern.Tail
import Timekeeper.Proofs.Pattern.Unambiguous
import Timekeeper.Proofs.Ranking.Origins
import Timekeeper.Proofs.Ranking.Stable
import Timekeeper.Proofs.Ranking.Standing
import Timekeeper.Proofs.Readout.Amount
import Timekeeper.Proofs.Readout.Extension
import Timekeeper.Proofs.Readout.LetterCase
import Timekeeper.Proofs.Readout.Negative
import Timekeeper.Proofs.Readout.Order
import Timekeeper.Proofs.Readout.Printing
import Timekeeper.Proofs.Readout.Spacing
import Timekeeper.Proofs.Readout.Unit
import Timekeeper.Proofs.Report.Columns
import Timekeeper.Proofs.Report.Diagnosis
import Timekeeper.Proofs.Report.Quantity
import Timekeeper.Proofs.Report.Rows
import Timekeeper.Proofs.Report.Totals
import Timekeeper.Proofs.Report.Views
import Timekeeper.Proofs.Runner.Course
import Timekeeper.Proofs.Runner.Deeds
import Timekeeper.Proofs.Runner.Execute
import Timekeeper.Proofs.Score.Coverage
import Timekeeper.Proofs.Score.Declaration
import Timekeeper.Proofs.Score.Fallback
import Timekeeper.Proofs.Score.Finite
import Timekeeper.Proofs.Score.Independence
import Timekeeper.Proofs.Session.Account
import Timekeeper.Proofs.Session.Artifacts
import Timekeeper.Proofs.Supervision.Pipes
