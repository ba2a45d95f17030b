import Timekeeper.Bench.Shell.Evaluation
import Timekeeper.Machine
import Timekeeper.Supervision

/-!
# The bench

The **bench** is a machine held in memory: a file tree, a clock, a shell and the usual small
programs. What is run on it can be run again with the same result.

`Bench.run` starts a command and watches it. The time that passes on the bench is the time that
programs ask to pass; a program takes one millisecond to start and none to work. One that is
still running when its bound has passed is killed at the first look that finds it so, and what
it would have done later is not done.
-/

namespace Timekeeper

/-- What is said about a process that returned a code. -/
def Ending.statusText (code : Nat) : String :=
  "exit status: " ++ String.ofList (Nat.toDigits 10 code)

/-- How a process exited that returned a code. -/
def ExitStatus.ofCode (code : Nat) : ExitStatus := ⟨code == 0, Ending.statusText code⟩

/-- A machine held in memory: its files, and the milliseconds since it was switched on. -/
structure Bench where
  tree : FileTree
  clock : Nat

namespace Bench

/-- The working directory of everything on the bench. -/
def home : Location := ["work"]

/-- A file to be put on a bench, by its path from the working directory. -/
structure Material where
  path : String
  text : String
  executable : Bool

/-- The bench with some files in its working directory. -/
def ofMaterials (materials : List Material) : Bench where
  tree := materials.foldl (fun t m =>
    t.plant (home ++ FileTree.names m.path) (Octets.ofString m.text) m.executable)
    (Installed.tree.put home .directory)
  clock := 0

/-- The files below the working directory, in the order of their paths. -/
def files (b : Bench) : List String := b.tree.filesBelow home

/-- The text of a file. -/
def text? (b : Bench) (path : String) : Option String :=
  match b.tree.find home path with
  | .ok (_, .file content _) => some (Octets.toString content)
  | _ => none

/-! ### Running commands -/

/-- How many commands a script can carry out before it is taken not to end. -/
def patience : Nat := 200000

/-- How deep commands can be nested. -/
def depth : Nat := 4000

/-- How long a program takes to start, in milliseconds. -/
def startTime : Nat := 1

/-- The variables that every program is given. -/
def environment : List (Octets × Shell.Variable) :=
  [("PATH", Installed.path), ("HOME", "/root"), ("PWD", "/" ++ FileTree.pathOf home)].map
    fun (name, value) => (name.toList, ⟨some value.toList, true, false⟩)

/-- The shell from which programs are started, with the output and the errors collected in the
first two places. -/
def shell (tree : FileTree) (horizon : Option Nat) : Shell.State where
  world :=
    { tree := tree, clock := 0, horizon := horizon, budget := patience, sources := #[]
      sinks := #[⟨[], [], false⟩, ⟨[], [], false⟩] }
  directory := home
  name := []
  arguments := []
  bindings := environment
  functions := []
  channels := [(0, .null), (1, .sink 0), (2, .sink 1)]
  status := 0
  substituted := none
  line := 1
  switches := default
  tested := false
  loops := 0
  exitAction := none
  jobs := []
  saved := []

/-- The number of the look that finds a bound passed, the first one being number zero. -/
def lastLook (bound : Nat) : Nat := (bound + Watch.interval - 1) / Watch.interval

/-- The looks at a child that ends after some milliseconds with a code, or never. -/
def looks (bound : Nat) (ending : Option (Nat × Nat)) : List (Look Nat) :=
  let running (count : Nat) : List (Look Nat) :=
    (List.range count).map fun n => .running (n * Watch.interval)
  match ending with
  | some (duration, code) =>
    let count := (duration + Watch.interval - 1) / Watch.interval
    if count ≤ lastLook bound then running count ++ [.exited code] else running (lastLook bound + 1)
  | none => running (lastLook bound + 1)

/-- Lets an image work for at most some milliseconds. -/
def work (tree : FileTree) (horizon : Nat) (image : Shell.Image) :
    Option Shell.Stop × Shell.State :=
  match (Shell.attempt (Shell.apart (Shell.runImage depth image))).run
      (shell tree (some horizon)) with
  | (.ok stop, s) => (stop, s)
  | (.error stop, s) => (some stop, s)

/-- The image of a command, or why it cannot be started. -/
def imageOf (tree : FileTree) (command : Command) : Except Fault Shell.Image :=
  let name := Octets.ofString command.program
  if (command.program :: command.arguments).any fun a => a.toList.contains '\x00' then
    .error .zeroInCommand
  else if Shell.Image.isSearched name && FileTree.longestName < name.length then
    .error .nameTooLong
  else
    match Shell.Image.resolve tree home Installed.path.toList name
        (command.arguments.map Octets.ofString) with
    | .error fault => .error fault
    | .ok image => if image.program.isNone then .error .notExecutable else .ok image

/-- How a program is called in what is said about it. -/
def shownProgram (program : String) : String :=
  if program.toList.contains '\x00' then "<string-with-nul>" else program

/-- Starts a command and watches it. What exits on the bench returns a code. -/
def run (command : Command) (bound : Nat) : StateM Bench (Except RunError (Ending Nat)) := do
  let b ← get
  match imageOf b.tree command with
  | .error fault => return .error (.notStarted (shownProgram command.program) fault)
  | .ok image =>
    let killed := lastLook bound * Watch.interval
    if killed < startTime then return .ok .timedOut
    let (stop, s) := work b.tree (killed - startTime) image
    let ending :=
      match stop with
      | none => some (s.world.clock + startTime, s.status)
      | some _ => none
    let textOf (n : Nat) : String := Octets.toString (s.world.sinks.getD n default).stream.octets
    match (Watch.ofLooks bound (looks bound ending)).verdict with
    | some (.exited code) =>
      set (⟨s.world.tree, b.clock + s.world.clock + startTime⟩ : Bench)
      return .ok (.exited code (textOf 0) (textOf 1))
    | some (.failed fault) => return .error (.notAwaited (shownProgram command.program) fault)
    | _ =>
      set (⟨s.world.tree, b.clock + killed⟩ : Bench)
      return .ok .timedOut

/-! ### The machine -/

/-- Where the program of a name is installed: a name with a slash is a path. -/
def tool? (b : Bench) (name : String) : Option String :=
  if Shell.Image.isSearched name.toList then
    (Shell.Image.search? b.tree home Installed.path.toList (Octets.ofString name)).map
      Octets.toString
  else if b.tree.isExecutable home name then some name
  else none

/-- The bench as a machine. -/
def machine : Machine Bench where
  isFile b path := b.tree.isFile home path
  tool? := tool?
  run command bound := do
    match ← Bench.run command bound with
    | .ok (.exited code output errors) => return .ok (.exited (.ofCode code) output errors)
    | .ok .timedOut => return .ok .timedOut
    | .error e => return .error e
  discard path b := { b with tree := b.tree.discard home path }
  save path content := do
    let b ← get
    match b.tree.write home path (Octets.ofString content) with
    | .ok tree =>
      set { b with tree := tree }
      return .ok ()
    | .error fault => return .error fault
  now b := ⟨(b.clock / 1000 : Nat), b.clock % 1000 * 1000000⟩
  stopwatch b _ := b.clock * 1000000
  platform := "linux x86_64"

end Bench

end Timekeeper
