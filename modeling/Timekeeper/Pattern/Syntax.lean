/-!
# The written form of a pattern

A pattern is first read into a **tree** that follows its written form: every part of the
tree that a later stage may object to carries the span of text it was read from. What a
tree means under the flags in force is decided afterwards, so that a misspelt pattern is
always reported before a pattern that is well spelt but has no meaning.

Sequences, alternatives and classes of more than two members are chains of pairs with one
marking node above the chain, which holds the span of the whole.
-/

namespace Timekeeper

namespace Pattern

/-! ### Places in the written pattern -/

/-- A place between two characters: how many characters and lines come before it. Lines and
columns are counted from one. -/
structure Place where
  offset : Nat
  line : Nat
  column : Nat
deriving DecidableEq, Inhabited

/-- The place in front of the first character. -/
def Place.start : Place := ⟨0, 1, 1⟩

/-- The place behind a character. -/
def Place.after (p : Place) (c : Char) : Place :=
  if c = '\n' then ⟨p.offset + 1, p.line + 1, 1⟩ else ⟨p.offset + 1, p.line, p.column + 1⟩

/-- A stretch of the written pattern. -/
structure Span where
  first : Place
  last : Place
deriving DecidableEq, Inhabited

/-! ### Atoms -/

/-- A single character as written. `octet` marks the two digit hexadecimal form, which
stands for a byte rather than a character where characters are bytes. -/
structure Literal where
  char : Char
  span : Span
  octet : Bool
deriving DecidableEq

/-- The three classes with a one letter escape. -/
inductive ShortClass where
  | digit
  | space
  | word
deriving DecidableEq

/-- The named classes of ASCII characters. -/
inductive AsciiClass where
  | alnum
  | alpha
  | ascii
  | blank
  | cntrl
  | digit
  | graph
  | lower
  | print
  | punct
  | space
  | upper
  | word
  | xdigit
deriving DecidableEq

/-- How a property of characters is asked for: by its name, or by a name and a value. -/
inductive PropertyQuery where
  | name (name : List Char)
  | value (name value : List Char)
deriving DecidableEq

/-- The zero-width conditions. -/
inductive Anchor where
  | lineStart
  | lineEnd
  | textStart
  | textEnd
  | boundary
  | notBoundary
  | wordStart
  | wordEnd
  | wordStartHalf
  | wordEndHalf
deriving DecidableEq

/-! ### Classes -/

/-- How two classes between brackets are combined. -/
inductive SetOperation where
  | intersection
  | difference
  | symmetricDifference
deriving DecidableEq

/-- What stands between the brackets of a class. -/
inductive ClassTree where
  | nothing (span : Span)
  | literal (literal : Literal)
  | range (first last : Literal)
  | ascii (kind : AsciiClass) (negated : Bool) (span : Span)
  | property (query : PropertyQuery) (negated : Bool) (span : Span)
  | short (kind : ShortClass) (negated : Bool) (span : Span)
  | pair (first second : ClassTree)
  | union (span : Span) (members : ClassTree)
  | bracketed (span : Span) (negated : Bool) (body : ClassTree)
  | operation (span : Span) (kind : SetOperation) (left right : ClassTree)
deriving DecidableEq

/-! ### Flags -/

/-- The switches that a pattern can turn on and off. -/
inductive Flag where
  | caseInsensitive
  | multiLine
  | dotAll
  | swapGreed
  | unicode
  | carriageReturn
  | verbose
deriving DecidableEq

/-- One switch and whether it is turned on. -/
structure FlagChange where
  flag : Flag
  on : Bool
deriving DecidableEq

/-! ### Trees -/

/-- What the parentheses of a group do besides grouping. -/
inductive GroupKind where
  | unnamed
  | named (name : List Char)
  | plain (changes : List FlagChange)
deriving DecidableEq

/-- The written form of a pattern. -/
inductive Tree where
  | empty
  | flags (changes : List FlagChange)
  | literal (literal : Literal)
  | dot (span : Span)
  | anchor (kind : Anchor) (span : Span)
  | property (query : PropertyQuery) (negated : Bool) (span : Span)
  | short (kind : ShortClass) (negated : Bool) (span : Span)
  | bracketed (span : Span) (negated : Bool) (body : ClassTree)
  | repetition (span : Span) (least : Nat) (most : Option Nat) (greedy : Bool) (body : Tree)
  | group (span : Span) (kind : GroupKind) (body : Tree)
  | pair (first second : Tree)
  | sequence (span : Span) (members : Tree)
  | choice (first second : Tree)
  | alternatives (span : Span) (members : Tree)
deriving DecidableEq

namespace ClassTree

/-- The text that a class was read from. -/
def span : ClassTree → Span
  | nothing span => span
  | literal l => l.span
  | range first last => ⟨first.span.first, last.span.last⟩
  | ascii _ _ span => span
  | property _ _ span => span
  | short _ _ span => span
  | pair first second => ⟨first.span.first, second.span.last⟩
  | union span _ => span
  | bracketed span _ _ => span
  | operation span _ _ _ => span

/-- A chain of pairs of at least one class. -/
def chain (first : ClassTree) : List ClassTree → ClassTree
  | [] => first
  | second :: rest => pair first (chain second rest)

end ClassTree

namespace Tree

/-- Where the text that a tree was read from begins. Trees without text begin nowhere in
particular. -/
def first : Tree → Place
  | empty => .start
  | flags _ => .start
  | literal l => l.span.first
  | dot span => span.first
  | anchor _ span => span.first
  | property _ _ span => span.first
  | short _ _ span => span.first
  | bracketed span _ _ => span.first
  | repetition span _ _ _ _ => span.first
  | group span _ _ => span.first
  | pair left _ => left.first
  | sequence span _ => span.first
  | choice left _ => left.first
  | alternatives span _ => span.first

/-- A sequence of at least one tree as a chain of pairs. -/
def chain (first : Tree) : List Tree → Tree
  | [] => first
  | second :: rest => pair first (chain second rest)

/-- Alternatives of at least one tree as a chain of choices. -/
def choices (first : Tree) : List Tree → Tree
  | [] => first
  | second :: rest => choice first (choices second rest)

end Tree

end Pattern

end Timekeeper
