import Timekeeper.Binary64.Shortest
import Timekeeper.Text.Quoted

/-!
# Faults of a document

Why a JSON document is refused: it is no JSON, or it is JSON of another shape than expected.
A fault has the place at which reading stopped. Lines are counted from one; columns count
the bytes of the line before the place.
-/

namespace Timekeeper

namespace Json

/-- A place in a document: its line, and the bytes of the line that come before it. -/
structure Place where
  line : Nat
  column : Nat
deriving DecidableEq

/-- The place in front of a document. -/
def Place.start : Place := ⟨1, 0⟩

/-- The place behind some bytes that hold no line feed. -/
def Place.behind (p : Place) (bytes : Nat) : Place := ⟨p.line, p.column + bytes⟩

/-- The place behind a character. -/
def Place.after (p : Place) (c : Char) : Place :=
  if c = '\n' then ⟨p.line + 1, 0⟩ else p.behind c.utf8Size

/-- The place behind the first byte of a character. -/
def Place.afterByte (p : Place) (c : Char) : Place :=
  if c = '\n' then ⟨p.line + 1, 0⟩ else p.behind 1

/-- What was found where something else was expected. -/
inductive Found where
  | null
  | boolean (value : Bool)
  | integer (value : Int)
  | number (value : Binary64)
  | string (value : List Char)
  | sequence
  | map
deriving DecidableEq

/-- How a finding is named. -/
def Found.message : Found → String
  | null => "null"
  | boolean value => "boolean `" ++ (if value then "true" else "false") ++ "`"
  | integer value =>
    "integer `" ++ (if value < 0 then "-" else "") ++
      String.ofList (Binary64.digits value.natAbs) ++ "`"
  | number value => "floating point `" ++ String.ofList value.shortest ++ "`"
  | string value => "string " ++ String.ofList (Text.quoted value)
  | sequence => "sequence"
  | map => "map"

/-- Why a document is refused. -/
inductive Cause where
  | endInList
  | endInObject
  | endInString
  | endInValue
  | colonExpected
  | listCommaExpected
  | objectCommaExpected
  | identExpected
  | valueExpected
  | escapeInvalid
  | numberInvalid
  | numberOutOfRange
  | loneSurrogate
  | controlCharacter
  | keyNotString
  | trailingComma
  | trailingCharacters
  | hexEscapeUnfinished
  | invalidType (found : Found) (expected : String)
  | invalidLength (length : Nat) (expected : String)
  | missingField (name : String)
  | duplicateField (name : String)
deriving DecidableEq

/-- What is said about a cause. -/
def Cause.message : Cause → String
  | endInList => "EOF while parsing a list"
  | endInObject => "EOF while parsing an object"
  | endInString => "EOF while parsing a string"
  | endInValue => "EOF while parsing a value"
  | colonExpected => "expected `:`"
  | listCommaExpected => "expected `,` or `]`"
  | objectCommaExpected => "expected `,` or `\x7d`"
  | identExpected => "expected ident"
  | valueExpected => "expected value"
  | escapeInvalid => "invalid escape"
  | numberInvalid => "invalid number"
  | numberOutOfRange => "number out of range"
  | loneSurrogate => "lone leading surrogate in hex escape"
  | controlCharacter => "control character (\\u0000-\\u001F) found while parsing a string"
  | keyNotString => "key must be a string"
  | trailingComma => "trailing comma"
  | trailingCharacters => "trailing characters"
  | hexEscapeUnfinished => "unexpected end of hex escape"
  | invalidType found expected => "invalid type: " ++ found.message ++ ", expected " ++ expected
  | invalidLength length expected =>
    "invalid length " ++ String.ofList (Binary64.digits length) ++ ", expected " ++ expected
  | missingField name => "missing field `" ++ name ++ "`"
  | duplicateField name => "duplicate field `" ++ name ++ "`"

/-- A cause with the place at which reading stopped. -/
structure Fault where
  cause : Cause
  place : Place
deriving DecidableEq

/-- What is said about a fault. -/
def Fault.message (f : Fault) : String :=
  f.cause.message ++ " at line " ++ String.ofList (Binary64.digits f.place.line) ++ " column " ++
    String.ofList (Binary64.digits f.place.column)

end Json

end Timekeeper
