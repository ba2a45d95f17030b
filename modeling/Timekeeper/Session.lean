import Timekeeper.Notice
import Timekeeper.Report.Document
import Timekeeper.Runner

/-!
# Sessions

A **session** measures languages one after another, so that no two programs ever run at the
same time. Each execution is scored as soon as it ends; one that fails costs its own language
alone.
-/

namespace Timekeeper

/-- What a session has found and told: the scores in the order of the languages, and the
notices in the order in which they were given. -/
structure Session where
  notices : List Notice
  scores : List Score
deriving DecidableEq

namespace Session

/-- The session in which nothing has happened. -/
def empty : Session := ⟨[], []⟩

/-- One session followed by another. -/
def append (first second : Session) : Session :=
  ⟨first.notices ++ second.notices, first.scores ++ second.scores⟩

/-- The session of one execution that took so many seconds and milliseconds. -/
def ofExecution (g : Grammar) (e : Execution) (seconds milliseconds : Nat) : Session :=
  let score := Score.ofExecution g e
  ⟨.running e.language :: Notice.ofScore g score seconds milliseconds, [score]⟩

/-- Measures one language. At the end the stopwatch is looked at twice: the first look tells the
whole seconds, and the second one the milliseconds beyond whole seconds. -/
def measure (m : Machine σ) (w : Workplace) (g : Grammar) (language : Language) :
    StateM σ Session := do
  let start := m.stopwatch (← get) 0
  let execution ← m.execute w language
  let shown := m.stopwatch (← get)
  let seconds := (shown 0 - start) / 1000000000
  let milliseconds := (shown 1 - start) / 1000000 % 1000
  return ofExecution g execution seconds milliseconds

/-- Measures languages one after another. -/
def run (m : Machine σ) (w : Workplace) (g : Grammar) : List Language → StateM σ Session
  | [] => return empty
  | language :: rest => do
    let first ← measure m w g language
    let others ← run m w g rest
    return first.append others

/-- What a session prints. -/
def transcript (style : Style) (s : Session) : String :=
  String.join (s.notices.map fun n => n.line style ++ "\n")

end Session

end Timekeeper
