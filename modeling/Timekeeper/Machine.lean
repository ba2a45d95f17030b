import Timekeeper.Calendar
import Timekeeper.Fault

/-!
# Machines

A **machine** is what a comparison asks of the computer it runs on: which files and tools there
are, that a command be run within a bound, that a file be removed or written, and the time. Its
state is a type of its own, so what is said about comparisons holds on every machine, whatever
its children do to its files.
-/

namespace Timekeeper

/-- A program to start, and its arguments. -/
structure Command where
  program : String
  arguments : List String
deriving DecidableEq

/-- How a process **exited**: whether with success, and what its system says about it, such as
`exit status: 1` of one that returned or `signal: 11 (SIGSEGV)` of one that was stopped. -/
structure ExitStatus where
  success : Bool
  text : String
deriving DecidableEq

/-- How a bounded run of a command ends, where a process exits with an `α`. -/
inductive Ending (α : Type) where
  /-- The program exited by itself; all that it wrote on its two channels is known. -/
  | exited (status : α) (output errors : String)
  /-- The bound passed first, and the program was killed. -/
  | timedOut
deriving DecidableEq

/-- Why a run has no ending. -/
inductive RunError where
  | notStarted (program : String) (fault : Fault)
  | notAwaited (program : String) (fault : Fault)
deriving DecidableEq

/-- What is said about a run without an ending. -/
def RunError.message : RunError → String
  | notStarted program fault => program ++ " subprocess spawning error: " ++ fault.message
  | notAwaited program fault => program ++ " subprocess waiting error: " ++ fault.message

/-- What a comparison asks of a computer whose state is a `σ`. -/
structure Machine (σ : Type) where
  /-- Whether a regular file stands at a path. -/
  isFile : σ → String → Bool
  /-- Where the program of a name is installed, if it is. -/
  tool? : σ → String → Option String
  /-- Runs a command until it ends, but at most for so many milliseconds. -/
  run : Command → Nat → StateM σ (Except RunError (Ending ExitStatus))
  /-- Removes the regular file at a path, if there is one. -/
  discard : String → σ → σ
  /-- Replaces the content of the file at a path. -/
  save : String → String → StateM σ (Except Fault Unit)
  /-- The time. -/
  now : σ → Instant
  /-- What a stopwatch shows that runs all the time, in nanoseconds, at each of the looks at it that
  are taken in one state. -/
  stopwatch : σ → Nat → Nat
  /-- What the computer is. -/
  platform : String

end Timekeeper
