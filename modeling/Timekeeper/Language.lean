/-!
# Languages

A **language** is a name and a **toolchain**, the way in which its benchmark program is run:
compiled into an executable of its own, read by an interpreter, or run by an executable that
belongs to the project.
-/

namespace Timekeeper

/-- How a benchmark program is built and run. -/
inductive Toolchain where
  /-- A compiler turns the source into an executable, which is run and removed. -/
  | compiled (compiler : String) (flags : List String) (source binary : String)
  /-- The first interpreter that is installed runs the source. -/
  | interpreted (interpreters : List String) (source : String)
  /-- The first executable that the project has runs the source. -/
  | project (executables : List String) (source : String)
deriving DecidableEq

/-- A language to be measured. -/
structure Language where
  name : String
  toolchain : Toolchain
deriving DecidableEq

end Timekeeper
