import Timekeeper.Fault

/-!
# Supervision

A child is watched by looking at it again and again until it has exited or its bound has
passed. A **look** finds the child still running, together with the time since its start, or
finds how it exited, or fails. Each look comes before the comparison with the bound, so there is
at least one, and a child that a look finds exited has not timed out however late the look is.

Beside its verdict a watch tells what it did: it looks, and rests between two looks, and the child
is killed and awaited exactly when its bound has passed. How a child exited is of any type.
-/

namespace Timekeeper

variable {α : Type}

/-- What one look at a child finds. -/
inductive Look (α : Type) where
  /-- The child is running, so many milliseconds after its start. -/
  | running (elapsed : Nat)
  /-- The child has exited. -/
  | exited (status : α)
  /-- The child cannot be looked at. -/
  | failed (fault : Fault)
deriving DecidableEq

/-- What a watch concludes. -/
inductive Verdict (α : Type) where
  | exited (status : α)
  | expired
  | failed (fault : Fault)
deriving DecidableEq

/-- What is done while a child is watched. -/
inductive Measure where
  /-- Looks at the child. -/
  | look
  /-- Rests for a while before the next look. -/
  | rest
  /-- Kills the child. -/
  | kill
  /-- Waits until the killed child is gone. -/
  | await
deriving DecidableEq

/-- What a look is enough to conclude, with a bound in milliseconds. -/
def Look.verdict? (bound : Nat) : Look α → Option (Verdict α)
  | .exited status => some (.exited status)
  | .failed fault => some (.failed fault)
  | .running elapsed => if bound ≤ elapsed then some .expired else none

/-- What is done to a child on a verdict. -/
def Verdict.measures : Verdict α → List Measure
  | .expired => [.kill, .await]
  | .exited _ => []
  | .failed _ => []

/-- A watch: what was done, and the verdict if the looks sufficed for one. -/
structure Watch (α : Type) where
  measures : List Measure
  verdict : Option (Verdict α)
deriving DecidableEq

namespace Watch

/-- A watch in front of which something was done. -/
def after (measures : List Measure) (w : Watch α) : Watch α :=
  { w with measures := measures ++ w.measures }

/-- Watches a child through a series of looks, with a bound in milliseconds. -/
def ofLooks (bound : Nat) : List (Look α) → Watch α
  | [] => ⟨[], none⟩
  | look :: later =>
    match look.verdict? bound with
    | some verdict => ⟨.look :: verdict.measures, some verdict⟩
    | none => (ofLooks bound later).after [.look, .rest]

/-- The rest between two looks, in milliseconds. -/
def interval : Nat := 10

end Watch

end Timekeeper
