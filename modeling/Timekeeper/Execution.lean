import Timekeeper.Text.Blank
import Timekeeper.Text.Quoted

/-!
# Executions

The **status** of an attempt to run the benchmark program of one language, and the
**execution** that pairs it with the text the program printed. Every status other than
completion concerns its own language alone.
-/

namespace Timekeeper

/-- How an attempt to run a program ended. -/
inductive Status where
  /-- The program ran to its end. -/
  | completed
  /-- A source or an executable is absent. -/
  | notFound (path : String)
  /-- None of the tools that could build or run the program is installed. -/
  | toolMissing (tools : String)
  /-- The compiler refused the program. -/
  | buildFailed (diagnostic : String)
  /-- A step took longer than its bound, given in milliseconds. -/
  | timedOut (milliseconds : Nat)
  /-- The program could not be started, or failed. -/
  | runtimeFailure (diagnostic : String)
deriving DecidableEq

namespace Status

/-- Whether the program ran to its end. -/
def isCompleted : Status → Bool
  | completed => true
  | _ => false

/-- A diagnostic behind its heading, without white space at its end. -/
def headed (heading diagnostic : String) : String :=
  heading ++ String.ofList (Text.trimEnd diagnostic.toList)

/-- What is said about a status. -/
def message : Status → String
  | completed => "completed"
  | notFound path => String.ofList (Text.quoted path.toList) ++ " not found"
  | toolMissing tools => "`" ++ tools ++ "` not found in $\x7bPATH\x7d"
  | buildFailed diagnostic => headed "build failed: " diagnostic
  | timedOut milliseconds =>
    "timed out after " ++ String.ofList (Nat.toDigits 10 (milliseconds / 1000)) ++ "s"
  | runtimeFailure diagnostic => headed "runtime failure: " diagnostic

theorem isCompleted_iff {s : Status} : s.isCompleted = true ↔ s = completed := by
  cases s <;> simp [isCompleted]

end Status

/-- One attempt to run the program of a language: its status, and the text it printed, which is
empty unless it completed. -/
structure Execution where
  language : String
  output : String
  status : Status
deriving DecidableEq

namespace Execution

/-- A program that ran to its end. -/
def completed (language output : String) : Execution := ⟨language, output, .completed⟩

/-- An attempt without usable output. -/
def failed (language : String) (status : Status) : Execution := ⟨language, "", status⟩

end Execution

end Timekeeper
