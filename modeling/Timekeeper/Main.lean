import Timekeeper.Bench.Basic
import Timekeeper.CommandLine

/-!
# The program

Makes the standard comparison on a bench that holds the files of the working directory, prints
what there is to print, and writes the report.
-/

open Timekeeper

/-- The files below a directory, down to some depth, by their paths from the first one. Hidden
files and files that hold no text are left out; a text that names an interpreter can be
started. -/
def materialsBelow (depth : Nat) (front : String) (entries : Array IO.FS.DirEntry) :
    IO (List Bench.Material) := do
  let mut found := []
  for entry in entries do
    if entry.fileName.startsWith "." then continue
    let path := front ++ entry.fileName
    if ← entry.path.isDir then
      match depth with
      | 0 => continue
      | depth + 1 =>
        found := found ++ (← materialsBelow depth (path ++ "/") (← entry.path.readDir))
    else
      match String.fromUTF8? (← IO.FS.readBinFile entry.path) with
      | some text => found := found ++ [⟨path, text, text.startsWith "#!"⟩]
      | none => continue
  return found

/-- The entry point. -/
def main : IO UInt32 := do
  let style := Style.chosen (← IO.getEnv "CLICOLOR_FORCE") (← IO.getEnv "NO_COLOR")
    (← IO.getEnv "CLICOLOR") (← (← IO.getStdout).isTty)
  let directory ← IO.currentDir
  let bench := Bench.ofMaterials (← materialsBelow 3 "" (← directory.readDir))
  let (printout, after) := (CommandLine.run Bench.machine style).run bench
  match after.text? Settings.standard.reportPath with
  | some report => IO.FS.writeFile Settings.standard.reportPath report
  | none => pure ()
  IO.print printout.output
  IO.eprint printout.errors
  return printout.code.toUInt32
