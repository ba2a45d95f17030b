import Timekeeper.Supervision

/-!
# Scenes

A watched child writes into two pipes, and its descendants inherit them. Each pipe has a reader,
which ends when nobody holds the pipe open any more. A **scene** is the state of all of them: what
the child and its descendants hold, which readers have ended, the clock, the looks that were made,
and what the run is about to do. Everything that can happen in a scene is an **act**, and acts come
in any order. The run looks at the child, and what it does next follows from what the look is enough
to conclude; if the child exited, it waits for the readers of its output and of its errors.
-/

namespace Timekeeper

variable {α : Type}

/-- The pipes a child writes into. -/
inductive Pipe where
  | output
  | errors
deriving DecidableEq

/-- Which pipes a process holds open. -/
abbrev Holding := Pipe → Bool

/-- A child. Only a running one holds pipes. -/
inductive Child (α : Type) where
  | running (held : Holding)
  | exited (status : α)
  | killed

/-- What the run is about to do. -/
inductive Phase (α : Type) where
  /-- Looks at the child. -/
  | looking
  /-- Compares the time with the bound, as the look found the child running. -/
  | comparing
  /-- Kills the child. -/
  | killing
  /-- Waits until the killed child is gone. -/
  | awaiting
  /-- Waits for the reader of a pipe. -/
  | collecting (status : α) (pipe : Pipe)
  /-- Nothing: it has returned. -/
  | returned (verdict : Verdict α)

/-- A run and all that it depends on. -/
structure Scene (α : Type) where
  child : Child α
  descendants : List Holding
  ended : Pipe → Bool
  /-- The time since the start of the child, in milliseconds. -/
  clock : Nat
  /-- The looks that were made. -/
  looks : List (Look α)
  /-- Whether one was made when the bound had passed. -/
  late : Bool
  phase : Phase α

/-- What a process does to its pipes. -/
inductive Move where
  /-- Starts a process that inherits them. -/
  | fork
  | close (pipe : Pipe)

/-- What happens in a scene. A descendant that ends closes both its pipes. -/
inductive Act (α : Type) where
  /-- A millisecond passes. -/
  | pass
  | child (move : Move)
  | exit (status : α)
  | descendant (index : Nat) (move : Move)
  /-- The reader of a pipe comes to its end. -/
  | finish (pipe : Pipe)
  /-- The run does what it is about to do. -/
  | run
  /-- The run looks at the child and cannot. -/
  | fail (fault : Fault)

/-- Whether an act is a step of the run. -/
def Act.isRun : Act α → Bool
  | .run => true
  | _ => false

namespace Child

/-- What a child holds. -/
def held : Child α → Holding
  | .running held => held
  | .exited _ => fun _ => false
  | .killed => fun _ => false

/-- A child when it is killed: one that has exited already is not changed. -/
def kill : Child α → Child α
  | .running _ => .killed
  | .exited status => .exited status
  | .killed => .killed

/-- Whether a child is running. -/
def isRunning : Child α → Bool
  | .running _ => true
  | .exited _ => false
  | .killed => false

end Child

namespace Move

/-- What a process still holds. -/
def kept (held : Holding) : Move → Holding
  | .fork => held
  | .close pipe => fun p => held p && p ≠ pipe

/-- The process that is started, if any. -/
def started (held : Holding) : Move → List Holding
  | .fork => [held]
  | .close _ => []

end Move

/-- What the run does after a look. -/
def Phase.ofVerdict? : Option (Verdict α) → Phase α
  | none => .looking
  | some (.exited status) => .collecting status .output
  | some .expired => .killing
  | some (.failed fault) => .returned (.failed fault)

/-- What the run does after a reader has ended. -/
def Phase.afterReader (status : α) : Pipe → Phase α
  | .output => .collecting status .errors
  | .errors => .returned (.exited status)

namespace Scene

/-- The scene in which a child starts, with both its pipes. -/
def start : Scene α := ⟨.running fun _ => true, [], fun _ => false, 0, [], false, .looking⟩

/-- Whether a descendant holds a pipe open. -/
def isHeldBelow (s : Scene α) (pipe : Pipe) : Bool := s.descendants.any fun held => held pipe

/-- Whether anybody holds a pipe open. -/
def isHeld (s : Scene α) (pipe : Pipe) : Bool := s.child.held pipe || s.isHeldBelow pipe

/-- A look is made now. -/
def look (bound : Nat) (s : Scene α) : Scene α :=
  { s with late := s.late || bound ≤ s.clock }

/-- The run goes on after a look. -/
def conclude (bound : Nat) (s : Scene α) (look : Look α) : Scene α :=
  { s with looks := s.looks ++ [look], phase := .ofVerdict? (look.verdict? bound) }

/-- The next step of the run itself, if it need not wait. -/
def advance (bound : Nat) (s : Scene α) : Option (Scene α) :=
  match s.phase with
  | .looking =>
    match s.child with
    | .running _ => some { s.look bound with phase := .comparing }
    | .exited status => some ((s.look bound).conclude bound (.exited status))
    | .killed => none
  | .comparing => some (s.conclude bound (.running s.clock))
  | .killing => some { s with child := s.child.kill, phase := .awaiting }
  | .awaiting => if s.child.isRunning then none else some { s with phase := .returned .expired }
  | .collecting status pipe =>
    if s.ended pipe then some { s with phase := .afterReader status pipe } else none
  | .returned _ => none

/-- The scene after an act, if the act can happen. -/
def step (bound : Nat) (s : Scene α) : Act α → Option (Scene α)
  | .pass => some { s with clock := s.clock + 1 }
  | .child move =>
    match s.child with
    | .running held =>
      some { s with child := .running (move.kept held),
                    descendants := s.descendants ++ move.started held }
    | _ => none
  | .exit status =>
    match s.child with
    | .running _ => some { s with child := .exited status }
    | _ => none
  | .descendant index move =>
    s.descendants[index]?.map fun held =>
      { s with descendants := s.descendants.set index (move.kept held) ++ move.started held }
  | .finish pipe =>
    if s.isHeld pipe then none else some { s with ended := fun p => s.ended p || p = pipe }
  | .run => s.advance bound
  | .fail fault =>
    match s.phase with
    | .looking => some ((s.look bound).conclude bound (.failed fault))
    | _ => none

/-- The scene after some acts, if they can happen one after another. -/
def runs (bound : Nat) (acts : List (Act α)) (s : Scene α) : Option (Scene α) :=
  acts.foldlM (step bound) s

/-- The run **waits** for a reader that has not ended. -/
def WaitsFor (s : Scene α) (pipe : Pipe) : Prop :=
  ∃ status, s.phase = .collecting status pipe ∧ s.ended pipe = false

end Scene

end Timekeeper
