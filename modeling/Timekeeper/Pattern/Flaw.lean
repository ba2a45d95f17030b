import Timekeeper.Pattern.Syntax
import Timekeeper.Text.Lines

/-!
# Flaws of a pattern

Why a pattern is refused. A flaw of the written form or of its meaning points at the text
at fault, and for what is said twice also at where it was said first; a pattern can also be
refused for its size, which no single place is to blame for.

The report of a flaw shows the pattern with marks under the text at fault. A pattern of one
line is indented; one of several lines is framed and its lines are numbered.
-/

namespace Timekeeper

namespace Pattern

/-- What can be wrong with a pattern at some place. -/
inductive Fault where
  | classEscapeInvalid
  | classRangeInvalid
  | classRangeLiteral
  | classUnclosed
  | decimalEmpty
  | decimalInvalid
  | hexEmpty
  | hexInvalid
  | hexInvalidDigit
  | escapeUnexpectedEnd
  | escapeUnrecognized
  | flagDanglingNegation
  | flagDuplicate
  | flagRepeatedNegation
  | flagUnexpectedEnd
  | flagUnrecognized
  | groupNameDuplicate
  | groupNameEmpty
  | groupNameInvalid
  | groupNameUnexpectedEnd
  | groupUnclosed
  | groupUnopened
  | nestingTooDeep
  | repetitionCountInvalid
  | repetitionCountEmpty
  | repetitionCountUnclosed
  | repetitionMissing
  | wordBoundaryUnclosed
  | wordBoundaryUnrecognized
  | wordBoundaryUnexpectedEnd
  | propertyInvalid
  | backreference
  | lookAround
  | unicodeNotAllowed
  | invalidText
  | propertyUnknown
  | propertyValueUnknown
deriving DecidableEq

/-- How deep groups, classes, repetitions, sequences and alternatives may be nested. -/
def nestingLimit : Nat := 250

/-- What is said about a fault. -/
def Fault.message : Fault → String
  | classEscapeInvalid => "invalid escape sequence found in character class"
  | classRangeInvalid => "invalid character class range, the start must be <= the end"
  | classRangeLiteral => "invalid range boundary, must be a literal"
  | classUnclosed => "unclosed character class"
  | decimalEmpty => "decimal literal empty"
  | decimalInvalid => "decimal literal invalid"
  | hexEmpty => "hexadecimal literal empty"
  | hexInvalid => "hexadecimal literal is not a Unicode scalar value"
  | hexInvalidDigit => "invalid hexadecimal digit"
  | escapeUnexpectedEnd => "incomplete escape sequence, reached end of pattern prematurely"
  | escapeUnrecognized => "unrecognized escape sequence"
  | flagDanglingNegation => "dangling flag negation operator"
  | flagDuplicate => "duplicate flag"
  | flagRepeatedNegation => "flag negation operator repeated"
  | flagUnexpectedEnd => "expected flag but got end of regex"
  | flagUnrecognized => "unrecognized flag"
  | groupNameDuplicate => "duplicate capture group name"
  | groupNameEmpty => "empty capture group name"
  | groupNameInvalid => "invalid capture group character"
  | groupNameUnexpectedEnd => "unclosed capture group name"
  | groupUnclosed => "unclosed group"
  | groupUnopened => "unopened group"
  | nestingTooDeep => "exceed the maximum number of nested parentheses/brackets (250)"
  | repetitionCountInvalid =>
    "invalid repetition count range, the start must be <= the end"
  | repetitionCountEmpty => "repetition quantifier expects a valid decimal"
  | repetitionCountUnclosed => "unclosed counted repetition"
  | repetitionMissing => "repetition operator missing expression"
  | wordBoundaryUnclosed =>
    "special word boundary assertion is either unclosed or contains an invalid character"
  | wordBoundaryUnrecognized =>
    "unrecognized special word boundary assertion, " ++
      "valid choices are: start, end, start-half or end-half"
  | wordBoundaryUnexpectedEnd =>
    "found either the beginning of a special word boundary or a bounded repetition on a \\b " ++
      "with an opening brace, but no closing brace"
  | propertyInvalid => "invalid Unicode character class"
  | backreference => "backreferences are not supported"
  | lookAround => "look-around, including look-ahead and look-behind, is not supported"
  | unicodeNotAllowed => "Unicode not allowed here"
  | invalidText => "pattern can match invalid UTF-8"
  | propertyUnknown => "Unicode property not found"
  | propertyValueUnknown => "Unicode property value not found"

/-- A fault with the text at fault, and the text it repeats if it is a repetition. -/
structure Blame where
  fault : Fault
  span : Span
  earlier : Option Span
deriving DecidableEq

/-- Why a pattern is refused. -/
inductive Flaw where
  | blame (blame : Blame)
  | tooLarge (limit : Nat)
deriving DecidableEq

/-! ### Reports -/

namespace Blame

/-- The spans to mark, from left to right. -/
def spans (b : Blame) : List Span :=
  match b.earlier with
  | none => [b.span]
  | some other =>
    if other.first.offset < b.span.first.offset ∨
        (other.first.offset = b.span.first.offset ∧ other.last.offset < b.span.last.offset) then
      [other, b.span]
    else [b.span, other]

/-- Appends the marks of one span to a line of marks: blanks up to its first column and at
least one mark. -/
def mark (line : List Char) (s : Span) : List Char :=
  let padded := line ++ List.replicate (s.first.column - 1 - line.length) ' '
  padded ++ List.replicate (max 1 (s.last.column - s.first.column)) '^'

/-- The line of marks for the spans that lie within one line of the pattern. -/
def marks (spans : List Span) (line : Nat) : Option (List Char) :=
  match spans.filter fun s => s.first.line = line ∧ s.last.line = line with
  | [] => none
  | own => some (own.foldl mark [])

/-- The decimal digits of a number. -/
def numeral (n : Nat) : List Char := Nat.toDigits 10 n

/-- One line of the pattern behind its margin, with its marks beneath. -/
def showLine (margin : Nat → List Char) (spans : List Span) (row : List Char × Nat) :
    List (List Char) :=
  let line := row.2 + 1
  (margin line ++ row.1) ::
    match marks spans line with
    | some own => [List.replicate (margin line).length ' ' ++ own]
    | none => []

/-- The note on a span of several lines. -/
def spanNote (s : Span) : List Char :=
  "on line ".toList ++ numeral s.first.line ++ " (column ".toList ++ numeral s.first.column ++
    ") through line ".toList ++ numeral s.last.line ++ " (column ".toList ++
    numeral (s.last.column - 1) ++ [')']

/-- The report of a fault in a pattern. -/
def report (b : Blame) (pattern : List Char) : List Char :=
  let lines := Text.lines pattern
  let count := lines.length + if pattern.getLast? = some '\n' then 1 else 0
  let width := (numeral count).length
  let verdict := "error: ".toList ++ b.fault.message.toList
  let body :=
    if pattern.contains '\n' then
      let rule := List.replicate 79 '~'
      let margin (n : Nat) : List Char :=
        List.replicate (width - (numeral n).length) ' ' ++ numeral n ++ [':', ' ']
      let notes := (b.spans.filter fun s => s.first.line ≠ s.last.line).map spanNote
      [rule] ++ (lines.zipIdx.flatMap (showLine margin b.spans)) ++ [rule] ++ notes
    else lines.zipIdx.flatMap (showLine (fun _ => [' ', ' ', ' ', ' ']) b.spans)
  ("regex parse error:".toList :: body).flatMap (· ++ ['\n']) ++ verdict

end Blame

/-- What is said about a flaw of a pattern. -/
def Flaw.message (flaw : Flaw) (pattern : List Char) : String :=
  match flaw with
  | blame b => String.ofList (b.report pattern)
  | tooLarge limit =>
    "Compiled regex exceeds size limit of " ++ String.ofList (Blame.numeral limit) ++ " bytes."

end Pattern

end Timekeeper
