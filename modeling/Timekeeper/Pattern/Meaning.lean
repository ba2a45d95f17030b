import Timekeeper.Pattern.Plan
import Timekeeper.Pattern.Reader

/-!
# The meaning of patterns

What a tree means depends on the **mode** in force, which flags change for the rest of the
group they stand in, later alternatives included. A class is a test of single characters;
where case does not count, a character passes if one of its case variants does. Where
characters are bytes, no part of a pattern may stand for a byte beyond ASCII, since such a
byte alone is no text.
-/

namespace Timekeeper

namespace Pattern

/-! ### Modes -/

/-- The switches that the meaning of a pattern depends on. -/
structure Mode where
  caseInsensitive : Bool
  multiLine : Bool
  dotAll : Bool
  swapGreed : Bool
  unicode : Bool
  carriageReturn : Bool
deriving DecidableEq

namespace Mode

/-- The mode at the beginning of a pattern. -/
def initial : Mode := ⟨false, false, false, false, true, false⟩

/-- The mode after a change. -/
def change (m : Mode) (c : FlagChange) : Mode :=
  match c.flag with
  | .caseInsensitive => { m with caseInsensitive := c.on }
  | .multiLine => { m with multiLine := c.on }
  | .dotAll => { m with dotAll := c.on }
  | .swapGreed => { m with swapGreed := c.on }
  | .unicode => { m with unicode := c.on }
  | .carriageReturn => { m with carriageReturn := c.on }
  | .verbose => m

/-- The mode after several changes. -/
def changeAll (m : Mode) (changes : List FlagChange) : Mode := changes.foldl change m

/-- The characters that count as a given one. -/
def variants (m : Mode) (c : Char) : List Char :=
  if !m.caseInsensitive then [c]
  else if m.unicode then Unicode.caseVariants c
  else if c.isAlpha then [c.toLower, c.toUpper]
  else [c]

/-- A test that a character passes if one that counts as it does. -/
def folded (m : Mode) (test : Char → Bool) : Char → Bool :=
  if m.caseInsensitive then fun c => (m.variants c).any test else test

/-- The test for one character. -/
def single (m : Mode) (c : Char) : Char → Bool :=
  if !m.caseInsensitive then fun d => d == c
  else if m.unicode then
    let folded := Unicode.fold c
    fun d => Unicode.fold d == folded
  else
    let lower := c.toLower
    fun d => d.toLower == lower

end Mode

/-! ### Classes -/

/-- The members of a named ASCII class. -/
def AsciiClass.holds (c : Char) : AsciiClass → Bool
  | alnum => c.isAlphanum
  | alpha => c.isAlpha
  | ascii => c.toNat < 128
  | blank => c == '\t' || c == ' '
  | cntrl => c.toNat < 0x20 || c.toNat == 0x7f
  | digit => c.isDigit
  | graph => 0x21 ≤ c.toNat && c.toNat ≤ 0x7e
  | lower => c.isLower
  | print => 0x20 ≤ c.toNat && c.toNat ≤ 0x7e
  | punct => 0x21 ≤ c.toNat && c.toNat ≤ 0x7e && !c.isAlphanum
  | space => c == ' ' || (9 ≤ c.toNat && c.toNat ≤ 13)
  | upper => c.isUpper
  | word => c.isAlphanum || c == '_'
  | xdigit => isHex c

/-- The members of a class with a one letter escape. -/
def ShortClass.holds (unicode : Bool) (c : Char) : ShortClass → Bool
  | digit => if c.toNat < 128 then c.isDigit else unicode && Unicode.decimalNumber.contains c
  | space => if c.toNat < 128 then AsciiClass.space.holds c else unicode && Text.isBlank c
  | word => isWord unicode c

/-- The character that a literal stands for. -/
def Literal.scalar (m : Mode) (l : Literal) : Except Blame Char :=
  if !m.unicode && l.octet && 0x7f < l.char.toNat then throw ⟨.invalidText, l.span, none⟩
  else return l.char

/-- The character that a literal stands for in a class. -/
def Literal.member (m : Mode) (l : Literal) : Except Blame Char := do
  let c ← l.scalar m
  if !m.unicode && 0x7f < c.toNat then throw ⟨.unicodeNotAllowed, l.span, none⟩
  return c

/-- The property that a query asks for. -/
def PropertyQuery.resolve (m : Mode) (span : Span) (q : PropertyQuery) :
    Except Blame Unicode.Property :=
  if !m.unicode then throw ⟨.unicodeNotAllowed, span, none⟩
  else
    let lookup :=
      match q with
      | name n => Unicode.Property.find n
      | value n v => Unicode.Property.findValue n v
    match lookup with
    | .found p => return p
    | .unknownName => throw ⟨.propertyUnknown, span, none⟩
    | .unknownValue => throw ⟨.propertyValueUnknown, span, none⟩

/-- Gives the case variants of the members their place in a class, and then negates it if it
is to be. The negation of a class of bytes would hold bytes beyond ASCII. -/
def finishClass (m : Mode) (span : Span) (negated : Bool) (test : Char → Bool) :
    Except Blame (Char → Bool) :=
  if negated && !m.unicode then throw ⟨.invalidText, span, none⟩
  else
    let folded := m.folded test
    return if negated then fun c => !folded c else folded

/-- The test of a one letter class, which holds the case variants of its members already. -/
def shortTest (m : Mode) (kind : ShortClass) (negated : Bool) (span : Span) :
    Except Blame (Char → Bool) :=
  if negated && !m.unicode then throw ⟨.invalidText, span, none⟩
  else
    return if negated then fun c => !kind.holds m.unicode c else fun c => kind.holds m.unicode c

/-- The test of a property. -/
def propertyTest (m : Mode) (query : PropertyQuery) (negated : Bool) (span : Span) :
    Except Blame (Char → Bool) := do
  let p ← query.resolve m span
  finishClass m span negated p.holds

/-- The members of two classes combined. -/
def SetOperation.combine (a b : Char → Bool) : SetOperation → Char → Bool
  | intersection => fun c => a c && b c
  | difference => fun c => a c && !b c
  | symmetricDifference => fun c => a c != b c

/-- The test of a class. -/
def ClassTree.test (m : Mode) : ClassTree → Except Blame (Char → Bool)
  | nothing _ => return fun _ => false
  | literal l => do
    let c ← l.member m
    return fun d => d == c
  | range first last => do
    let a ← first.member m
    let b ← last.member m
    return fun d => a ≤ d && d ≤ b
  | ascii kind negated span => finishClass m span negated fun c => kind.holds c
  | property query negated span => propertyTest m query negated span
  | short kind negated span => shortTest m kind negated span
  | pair first second => do
    let a ← first.test m
    let b ← second.test m
    return fun c => a c || b c
  | union _ members => members.test m
  | bracketed span negated body => do finishClass m span negated (← body.test m)
  | operation _ kind left right => do
    let a ← left.test m
    let b ← right.test m
    return kind.combine (m.folded a) (m.folded b)

/-! ### Trees -/

/-- The condition that an anchor stands for. -/
def Anchor.condition (m : Mode) : Anchor → Condition
  | lineStart => if m.multiLine then .lineStart m.carriageReturn else .textStart
  | lineEnd => if m.multiLine then .lineEnd m.carriageReturn else .textEnd
  | textStart => .textStart
  | textEnd => .textEnd
  | boundary => .boundary m.unicode
  | notBoundary => .notBoundary m.unicode
  | wordStart => .wordStart m.unicode
  | wordEnd => .wordEnd m.unicode
  | wordStartHalf => .wordStartHalf m.unicode
  | wordEndHalf => .wordEndHalf m.unicode

/-- The test of the sign for any character, which leaves out the ends of lines unless a flag
includes them. -/
def dotTest (m : Mode) (span : Span) : Except Blame (Char → Bool) :=
  if !m.unicode then throw ⟨.invalidText, span, none⟩
  else
    return if m.dotAll then fun _ => true
      else if m.carriageReturn then fun c => c != '\n' && c != '\r'
      else fun c => c != '\n'

/-- The plan that remembers what a group matched if the group has a name. -/
def GroupKind.plan (body : Plan) : GroupKind → Plan
  | named name => .capture name body
  | _ => body

/-- The plan of a tree, and the mode behind it. -/
def Tree.plan (m : Mode) : Tree → Except Blame (Plan × Mode)
  | empty => return (.empty, m)
  | flags changes => return (.empty, m.changeAll changes)
  | literal l => do return (.one (m.single (← l.scalar m)), m)
  | dot span => do return (.one (← dotTest m span), m)
  | anchor kind _ => return (.condition (kind.condition m), m)
  | property query negated span => do return (.one (← propertyTest m query negated span), m)
  | short kind negated span => do return (.one (← shortTest m kind negated span), m)
  | bracketed span negated body => do
    return (.one (← finishClass m span negated (← body.test m)), m)
  | repetition _ least most greedy body => do
    let (plan, m) ← body.plan m
    return (.repeated least most (greedy != m.swapGreed) plan, m)
  | group _ kind body => do
    let (plan, _) ← body.plan (m.changeAll kind.changes)
    return (kind.plan plan, m)
  | pair first second => do
    let (a, m) ← first.plan m
    let (b, m) ← second.plan m
    return (.sequence a b, m)
  | sequence _ members => members.plan m
  | choice first second => do
    let (a, m) ← first.plan m
    let (b, m) ← second.plan m
    return (a.or b, m)
  | alternatives _ members => members.plan m

/-! ### Size -/

/-- How many bytes a compiled pattern may take. -/
def sizeLimit : Nat := 10485760

/-- An estimate of the bytes that one set of characters takes, by its boundaries. -/
def boundaryWeight (s : Unicode.CodeSet) : Nat := 35 * s.boundaries.length

/-- An estimate of the bytes that a property takes. -/
def PropertyQuery.weight (q : PropertyQuery) : Nat :=
  let lookup :=
    match q with
    | name n => Unicode.Property.find n
    | value n v => Unicode.Property.findValue n v
  match lookup with
  | .found p => (p.sets.map boundaryWeight).foldl (· + ·) 400
  | _ => 0

/-- An estimate of the bytes that a one letter class takes. -/
def ShortClass.weight : ShortClass → Nat
  | digit => boundaryWeight Unicode.decimalNumber
  | space => 700
  | word => boundaryWeight Unicode.word

/-- An estimate of the bytes that a class takes. -/
def ClassTree.weight : ClassTree → Nat
  | property query _ _ => query.weight
  | short kind _ _ => kind.weight
  | pair first second => first.weight + second.weight
  | union _ members => members.weight
  | bracketed _ negated body => body.weight + if negated then 400 else 0
  | operation _ _ left right => left.weight + right.weight
  | _ => 40

/-- An estimate of the bytes that a tree takes once compiled, in which every round of a counted
repetition has its own copy. -/
def Tree.weight : Tree → Nat
  | empty => 32
  | flags _ => 32
  | literal _ => 80
  | dot _ => 500
  | anchor _ _ => 32
  | property query _ _ => query.weight
  | short kind _ _ => kind.weight
  | bracketed _ negated body => body.weight + 64 + if negated then 400 else 0
  | repetition _ least most _ body =>
    match most with
    | none => body.weight * max 1 least + 96
    | some most => body.weight * least + (body.weight + 40) * (most - least) + 32
  | group _ _ body => body.weight + 64
  | pair first second => first.weight + second.weight
  | sequence _ members => members.weight
  | choice first second => first.weight + second.weight + 8
  | alternatives _ members => members.weight + 64

/-- What **compiles** patterns: it gives the plan of a pattern, or tells why the pattern has
none. -/
abbrev Compiler := List Char → Except Flaw Plan

/-- The plan of a pattern. -/
def compile (pattern : List Char) : Except Flaw Plan :=
  match Tree.read pattern with
  | .error b => .error (.blame b)
  | .ok tree =>
    match tree.plan .initial with
    | .error b => .error (.blame b)
    | .ok (plan, _) => if sizeLimit < tree.weight then .error (.tooLarge sizeLimit) else .ok plan

end Pattern

end Timekeeper
