import Timekeeper.Captured
import Timekeeper.Execution
import Timekeeper.FileTree
import Timekeeper.Machine
import Timekeeper.Settings

/-!
# Running one language

`Machine.execute` runs the benchmark program of one language, step by step, and stops at the
first step that fails; the status of that step is the status of the execution.

* A **compiled** language needs its source and its compiler, is built, and then runs what was
  built.
* An **interpreted** language needs its source and one of its interpreters.
* A **project** language needs one of the project's executables and its source.

What a build leaves is removed as soon as the build has been tried, after the program has run
or has not. A failure that happens before the build leaves the machine as it is.
-/

namespace Timekeeper

/-- A step on a machine: it changes the state of the machine and gives a result, or the status
with which it fails. -/
abbrev Attempt (σ α : Type) := ExceptT Status (StateM σ) α

namespace Machine

variable {σ : Type}

/-- The path of a source that is there. -/
def source (m : Machine σ) (w : Workplace) (name : String) : Attempt σ String := do
  let path := FileTree.join w.benchmarks name
  if m.isFile (← get) path then return path else throw (.notFound path)

/-- Where the first of several tools that is installed is found. -/
def tool (m : Machine σ) (candidates : List String) : Attempt σ String := do
  match candidates.findSome? (m.tool? (← get)) with
  | some path => return path
  | none => throw (.toolMissing (String.intercalate " or " candidates))

/-- The first of several executables that the project has. Of executables that are all missing
the first is the one reported, and the directory itself if there are none. -/
def executable (m : Machine σ) (w : Workplace) (candidates : List String) : Attempt σ String := do
  let paths := candidates.map (FileTree.join w.project)
  match paths.find? (m.isFile (← get)) with
  | some path => return path
  | none => throw (.notFound (paths.headD w.project))

/-- What a compiler that failed has to say: what it printed, or else how it exited. -/
def complaint (status output errors : String) : String :=
  let text := Captured.combine output.toList errors.toList
  if (Text.trim text).isEmpty then status else String.ofList text

/-- Runs a compiler. -/
def build (m : Machine σ) (w : Workplace) (command : Command) : Attempt σ Unit := do
  match ← m.run command w.buildBound with
  | .ok (.exited ⟨true, _⟩ _ _) => return
  | .ok (.exited ⟨false, status⟩ output errors) =>
    throw (.buildFailed (complaint status output errors))
  | .ok .timedOut => throw (.timedOut w.buildBound)
  | .error e => throw (.buildFailed e.message)

/-- Runs a benchmark program and gives all that it printed. -/
def program (m : Machine σ) (w : Workplace) (command : Command) : Attempt σ String := do
  match ← m.run command w.runBound with
  | .ok (.exited ⟨true, _⟩ output errors) =>
    return String.ofList (Captured.combine output.toList errors.toList)
  | .ok (.exited ⟨false, status⟩ _ errors) =>
    let heading := status ++ "\n"
    throw (.runtimeFailure (String.ofList (Captured.combine heading.toList errors.toList)))
  | .ok .timedOut => throw (.timedOut w.runBound)
  | .error e => throw (.runtimeFailure e.message)

/-- An attempt after which the file at a path is removed, whether it failed or not. -/
def without (m : Machine σ) (path : String) (attempt : Attempt σ α) : Attempt σ α := fun s =>
  let (result, s') := attempt s
  (result, m.discard path s')

/-- The command that compiles a source into an executable. -/
def buildCommand (compiler : String) (flags : List String) (source artifact : String) : Command :=
  ⟨compiler, flags ++ [source, "-o", artifact]⟩

/-- All that a compiled program prints. -/
def compiled (m : Machine σ) (w : Workplace) (compiler : String) (flags : List String)
    (source binary : String) : Attempt σ String := do
  let source ← m.source w source
  let compiler ← m.tool [compiler]
  let artifact := FileTree.join w.benchmarks binary
  m.without artifact do
    m.build w (buildCommand compiler flags source artifact)
    m.program w ⟨artifact, []⟩

/-- All that an interpreted program prints. -/
def interpreted (m : Machine σ) (w : Workplace) (interpreters : List String) (source : String) :
    Attempt σ String := do
  let source ← m.source w source
  let interpreter ← m.tool interpreters
  m.program w ⟨interpreter, [source]⟩

/-- All that a program prints which an executable of the project runs. -/
def ownExecutable (m : Machine σ) (w : Workplace) (executables : List String) (source : String) :
    Attempt σ String := do
  let executable ← m.executable w executables
  let source ← m.source w source
  m.program w ⟨executable, [source]⟩

/-- All that the program of a toolchain prints. -/
def attempt (m : Machine σ) (w : Workplace) : Toolchain → Attempt σ String
  | .compiled compiler flags source binary => m.compiled w compiler flags source binary
  | .interpreted interpreters source => m.interpreted w interpreters source
  | .project executables source => m.ownExecutable w executables source

/-- Runs the benchmark program of a language. -/
def execute (m : Machine σ) (w : Workplace) (language : Language) : StateM σ Execution := do
  match ← (m.attempt w language.toolchain).run with
  | .ok output => return .completed language.name output
  | .error status => return .failed language.name status

end Machine

end Timekeeper
