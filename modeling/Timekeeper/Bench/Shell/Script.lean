import Timekeeper.Text.Octets

/-!
# Scripts

The command language of the bench as trees. A **script** is a list of commands, each of which
ends with a line of the text, and possibly a flaw: the commands in front of a flaw are carried
out before it is found. A **word** is a list of pieces, and each piece remembers whether it
stood between quotes, since quoting decides what an expansion can be split into.
-/

namespace Timekeeper

namespace Bench

namespace Shell

/-- A misspelt place in a script: its line and what is said about it. -/
structure Flaw where
  line : Nat
  text : String
deriving DecidableEq

/-- What a redirection does with its descriptor. -/
inductive Direction where
  | input
  | output
  | append
  | both
  | duplicate
  | document
deriving DecidableEq

mutual

/-- A piece of a word. -/
inductive Piece where
  | literal (quoted : Bool) (text : Octets)
  | parameter (quoted : Bool) (name : Octets) (change : Change)
  /-- What a script prints. -/
  | output (quoted : Bool) (script : Script)
  /-- The value of a sum. -/
  | sum (quoted : Bool) (expression : List Piece)

/-- What is made of the value of a parameter. The flag of the first four tells whether an empty
value counts as none. -/
inductive Change where
  | asIs
  | size
  | fallback (emptyToo : Bool) (word : List Piece)
  | assign (emptyToo : Bool) (word : List Piece)
  | instead (emptyToo : Bool) (word : List Piece)
  | demand (emptyToo : Bool) (word : List Piece)
  | cutFront (longest : Bool) (wildcard : List Piece)
  | cutBack (longest : Bool) (wildcard : List Piece)
  /-- A change that does not exist. -/
  | unknown

/-- A redirection of a descriptor to what a word names. -/
inductive Redirection where
  | mk (descriptor : Nat) (direction : Direction) (target : List Piece)

/-- A command. -/
inductive Command where
  | simple (line : Nat) (assignments : List (Octets × List Piece)) (words : List (List Piece))
      (redirections : List Redirection)
  | pipeline (negated : Bool) (stages : List Command)
  | both (first second : Command)
  | either (first second : Command)
  | sequence (commands : List Command)
  | background (body : Command)
  | group (body : Command)
  | subshell (body : Command)
  | conditional (arms : List (Command × Command)) (otherwise : Option Command)
  | loop (until_ : Bool) (test body : Command)
  | each (name : Octets) (words : Option (List (List Piece))) (body : Command)
  | choice (word : List Piece) (arms : List (List (List Piece) × Command))
  | define (name : Octets) (body : Command)
  | redirected (line : Nat) (body : Command) (redirections : List Redirection)

/-- A script. -/
inductive Script where
  | mk (commands : List Command) (flaw : Option Flaw)

end

/-- A word. -/
abbrev Word := List Piece

instance : Inhabited Command := ⟨.sequence []⟩

end Shell

end Bench

end Timekeeper
