/-!
# Faults

Why an operating system refuses a request, and how it is told: by a text and by the number
under which the system knows the fault. A name with a zero character in it is refused before
the system is asked, so that fault has no number.

The faults that are named here are those that requests to files and programs commonly meet. There
are others, of disks and networks for instance; of such a fault nothing is known but how it is told.
-/

namespace Timekeeper

/-- Why a request to the operating system fails. -/
inductive Fault where
  | noEntry
  | notExecutable
  | badDescriptor
  | denied
  | exists
  | notDirectory
  | isDirectory
  | nameTooLong
  | notEmpty
  /-- A zero character in a path. -/
  | zeroInPath
  /-- A zero character in a program's name or in an argument. -/
  | zeroInCommand
  /-- Another fault, by its number, if it has one, and its text. -/
  | other (number? : Option Nat) (text : String)
deriving DecidableEq

namespace Fault

/-- The text of a fault. -/
def text : Fault → String
  | noEntry => "No such file or directory"
  | notExecutable => "Exec format error"
  | badDescriptor => "Bad file descriptor"
  | denied => "Permission denied"
  | .exists => "File exists"
  | notDirectory => "Not a directory"
  | isDirectory => "Is a directory"
  | nameTooLong => "File name too long"
  | notEmpty => "Directory not empty"
  | zeroInPath => "file name contained an unexpected NUL byte"
  | zeroInCommand => "nul byte found in provided data"
  | other _ text => text

/-- The number of a fault, if it has one. -/
def number? : Fault → Option Nat
  | noEntry => some 2
  | notExecutable => some 8
  | badDescriptor => some 9
  | denied => some 13
  | .exists => some 17
  | notDirectory => some 20
  | isDirectory => some 21
  | nameTooLong => some 36
  | notEmpty => some 39
  | zeroInPath => none
  | zeroInCommand => none
  | other number? _ => number?

/-- A fault as it is told: its text, and its number between brackets. -/
def message (f : Fault) : String :=
  match f.number? with
  | some n => f.text ++ " (os error " ++ String.ofList (Nat.toDigits 10 n) ++ ")"
  | none => f.text

end Fault

end Timekeeper
