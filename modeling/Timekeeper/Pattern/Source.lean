import Timekeeper.Pattern.Flaw
import Timekeeper.Text.Blank

/-!
# Reading from a pattern

The state of reading a pattern is what is left of it, the place reached, whether blanks and
comments are skipped there, and the group names seen so far. A **reading** consumes from the
front and either goes on or blames a span.
-/

namespace Timekeeper

namespace Pattern

/-- A pattern that is being read. -/
structure Source where
  rest : List Char
  place : Place
  verbose : Bool
  names : List (List Char × Span)

/-- A step of reading. -/
abbrev Reading := StateT Source (Except Blame)

namespace Source

/-- The source in front of a whole pattern. -/
def ofText (pattern : List Char) : Source := ⟨pattern, .start, false, []⟩

/-- Passes one character. -/
def advance (s : Source) : Source :=
  match s.rest with
  | [] => s
  | c :: rest => { s with rest := rest, place := s.place.after c }

/-- Passes several characters. -/
def advanceBy : Nat → Source → Source
  | 0, s => s
  | n + 1, s => advanceBy n s.advance

/-- Passes blanks and comments; `inComment` tells whether a comment has begun. -/
def dropBlank : List Char → Place → Bool → List Char × Place
  | [], p, _ => ([], p)
  | c :: rest, p, inComment =>
    if inComment then dropBlank rest (p.after c) (c != '\n')
    else if Text.isBlank c then dropBlank rest (p.after c) false
    else if c = '#' then dropBlank rest (p.after c) true
    else (c :: rest, p)

/-- Passes blanks and comments where they are to be skipped. -/
def skip (s : Source) : Source :=
  if s.verbose then
    let (rest, place) := dropBlank s.rest s.place false
    { s with rest := rest, place := place }
  else s

/-- The span of the next character, empty at the end. -/
def nextSpan (s : Source) : Span := ⟨s.place, s.advance.place⟩

/-- The empty span at the place reached. -/
def emptySpan (s : Source) : Span := ⟨s.place, s.place⟩

/-- The character behind the next one. Where blanks are skipped, blanks and one sign of a
comment are passed over, unless nothing follows them. -/
def second? (s : Source) : Option Char :=
  let behind := s.rest.tail
  if s.verbose then
    let found :=
      match behind.dropWhile Text.isBlank with
      | '#' :: rest => (rest.dropWhile Text.isBlank).head?
      | rest => rest.head?
    found <|> behind.head?
  else behind.head?

end Source

/-! ### Steps -/

/-- Blames a span. -/
def blame (fault : Fault) (span : Span) : Reading α := throw ⟨fault, span, none⟩

/-- The next character. -/
def next? : Reading (Option Char) := return (← get).rest.head?

/-- The place reached. -/
def here : Reading Place := return (← get).place

/-- Whether nothing is left. -/
def atEnd : Reading Bool := return (← get).rest.isEmpty

/-- Passes one character. -/
def advance : Reading PUnit := modify Source.advance

/-- Passes blanks and comments where they are to be skipped. -/
def skip : Reading PUnit := modify Source.skip

/-- Passes one character and the blanks behind it. -/
def advanceSkip : Reading PUnit := modify fun s => s.advance.skip

/-- The span of the next character. -/
def nextSpan : Reading Span := return (← get).nextSpan

/-- The empty span at the place reached. -/
def emptySpan : Reading Span := return (← get).emptySpan

/-- The span from a place to the place reached. -/
def spanFrom (first : Place) : Reading Span := return ⟨first, (← get).place⟩

/-- Passes a word if it comes next, and tells whether it did. -/
def accept (word : String) : Reading Bool := do
  let s ← get
  if word.toList.isPrefixOf s.rest then
    set (s.advanceBy word.length)
    return true
  else return false

/-- Passes the characters of a kind, and blanks behind each where they are to be skipped. The
number bounds how many are passed. -/
def collect (kind : Char → Bool) : Nat → Reading (List Char)
  | 0 => return []
  | n + 1 => do
    match ← next? with
    | none => return []
    | some c =>
      if kind c then
        advanceSkip
        return c :: (← collect kind n)
      else return []

/-- Passes as many characters of a kind as come next. -/
def collectAll (kind : Char → Bool) : Reading (List Char) := do
  collect kind (← get).rest.length

end Pattern

end Timekeeper
