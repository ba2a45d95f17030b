import Timekeeper.Calendar
import Timekeeper.Score
import Timekeeper.Report.Layout
import Timekeeper.Text.Lines

/-!
# Notices

While languages are measured, a **notice** is a line that tells what is done or was found. It
opens with a verb that can be shown in colour: green where all is well, yellow where something
is missing.
-/

namespace Timekeeper

/-- Whether colours are shown. -/
inductive Style where
  | plain
  | coloured
deriving DecidableEq

/-- The style that is asked for: the first setting can ask for colours, the second against them;
else colours are shown on a terminal, unless the third asks against them. A setting of zero asks
for nothing or, where it is about showing, against. -/
def Style.chosen (force refuse allow : Option String) (terminal : Bool) : Style :=
  let isOn (setting : String) : Bool := setting != "0"
  if force.any isOn then .coloured
  else if refuse.isSome then .plain
  else if (allow.map isOn).getD true && terminal then .coloured
  else .plain

/-- What a colour means. -/
inductive Tone where
  | good
  | poor
deriving DecidableEq

/-- The code of a colour. -/
def Tone.code : Tone → String
  | good => "92"
  | poor => "93"

/-- A word in bold and in the colour of a tone. -/
def Style.paint (style : Style) (tone : Tone) (word : String) : String :=
  match style with
  | plain => word
  | coloured => "\x1b[1;" ++ tone.code ++ "m" ++ word ++ "\x1b[0m"

/-- What is told about a language while it is measured. -/
inductive Notice where
  /-- Its program is about to run. -/
  | running (language : String)
  /-- It could not be measured; the reason is one line. -/
  | skipped (language reason : String)
  /-- It was measured, in so many whole seconds and milliseconds beyond them. -/
  | finished (language : String) (seconds milliseconds : Nat)
  /-- It did not report some of the tests. -/
  | incomplete (language : String) (missing declared : Nat)
deriving DecidableEq

namespace Notice

/-- The line of a notice. -/
def line (style : Style) : Notice → String
  | running language => "     " ++ style.paint .good "Running" ++ " " ++ language ++ " benchmark"
  | skipped language reason =>
    "     " ++ style.paint .poor "Skipped" ++ " " ++ language ++ ": " ++ reason
  | finished language seconds milliseconds =>
    "    " ++ style.paint .good "Finished" ++ " " ++ language ++ " in " ++
      String.ofList (Report.numeral seconds) ++ "." ++
      String.ofList (Instant.padded 3 milliseconds) ++ "s"
  | incomplete language missing declared =>
    "     " ++ style.paint .poor "Warning" ++ " " ++ language ++ " did not report " ++
      String.ofList (Report.numeral missing) ++ " of " ++
      String.ofList (Report.numeral declared) ++ " tests"

/-- The first line of an error. -/
def reason (error : String) : String := String.ofList ((Text.lines error.toList).headD [])

/-- What is told of a score that was found within so many seconds and milliseconds. -/
def ofScore (g : Grammar) (s : Score) (seconds milliseconds : Nat) : List Notice :=
  match s.error? with
  | some error => [skipped s.language (reason error)]
  | none =>
    let missing := (s.missingTests g).length
    finished s.language seconds milliseconds ::
      if missing = 0 then [] else [incomplete s.language missing g.tests.length]

end Notice

end Timekeeper
