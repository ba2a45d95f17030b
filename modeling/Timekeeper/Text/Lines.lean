/-!
# Lines

A line ends with a line feed, or with a carriage return and a line feed. The text after the
last line feed is a line too unless it is empty.
-/

namespace Timekeeper

namespace Text

/-- Puts one character in front of the pieces between line feeds. -/
def splitStep (c : Char) (pieces : List (List Char)) : List (List Char) :=
  if c = '\n' then [] :: pieces
  else
    match pieces with
    | [] => [[c]]
    | line :: others => (c :: line) :: others

/-- The pieces of a text between its line feeds, the one after the last included. -/
def splitLines (text : List Char) : List (List Char) := text.foldr splitStep [[]]

/-- A line without the carriage return in front of its line feed. -/
def dropReturn (line : List Char) : List Char :=
  if line.getLast? = some '\r' then line.dropLast else line

/-- The lines of a text: each piece that a line feed closed loses a final carriage return,
and the last piece is dropped when empty. -/
def lines (text : List Char) : List (List Char) :=
  let pieces := splitLines text
  pieces.dropLast.map dropReturn ++
    match pieces.getLast? with
    | some (c :: line) => [c :: line]
    | _ => []

theorem splitLines_nil : splitLines [] = [[]] := rfl

theorem splitLines_cons (c : Char) (text : List Char) :
    splitLines (c :: text) = splitStep c (splitLines text) := rfl

theorem splitLines_ne_nil (text : List Char) : splitLines text ≠ [] := by
  cases text with
  | nil => simp [splitLines]
  | cons c rest =>
    rw [splitLines_cons]
    unfold splitStep
    split
    · simp
    · split <;> simp

end Text

end Timekeeper
