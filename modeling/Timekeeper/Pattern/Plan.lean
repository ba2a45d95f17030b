import Timekeeper.Text.Blank
import Timekeeper.Unicode.CaseFolding

/-!
# Plans

A **plan** is what a pattern means once its flags are resolved: tests of single characters
and of places, put together by sequence, choice, repetition and capture.

`Plan.run` tries the ways in which a plan can match from a cursor on, in order of
preference, and hands each to a goal until the goal accepts one: earlier alternatives come
before later ones, and a greedy repetition prefers more rounds to fewer. A round that
consumes nothing ends its repetition, since further rounds could add nothing.
-/

namespace Timekeeper

namespace Pattern

/-! ### Conditions on places -/

/-- A condition on the place between two characters. The flag of a line condition tells
whether a carriage return ends lines too, that of a word condition whether all of Unicode
counts or ASCII only. -/
inductive Condition where
  | textStart
  | textEnd
  | lineStart (returns : Bool)
  | lineEnd (returns : Bool)
  | boundary (unicode : Bool)
  | notBoundary (unicode : Bool)
  | wordStart (unicode : Bool)
  | wordEnd (unicode : Bool)
  | wordStartHalf (unicode : Bool)
  | wordEndHalf (unicode : Bool)
deriving DecidableEq

/-- Word characters: letters, digits and the low line among ASCII, and where all of Unicode
counts what else words are made of. -/
def isWord (unicode : Bool) (c : Char) : Bool :=
  if c.toNat < 128 then c.isAlphanum || c == '_' else unicode && Unicode.word.contains c

/-- Whether a word character stands on one side of a place. -/
def wordSide (unicode : Bool) (side : Option Char) : Bool := side.any (isWord unicode)

/-- Whether a condition holds between two characters, of which either can be missing. -/
def Condition.holds (before after : Option Char) : Condition → Bool
  | textStart => before.isNone
  | textEnd => after.isNone
  | lineStart returns =>
    before.isNone || before == some '\n'
      || (returns && before == some '\r' && after != some '\n')
  | lineEnd returns =>
    after.isNone
      || (if returns then after == some '\r' || (after == some '\n' && before != some '\r')
          else after == some '\n')
  | boundary u => wordSide u before != wordSide u after
  | notBoundary u => wordSide u before == wordSide u after
  | wordStart u => !wordSide u before && wordSide u after
  | wordEnd u => wordSide u before && !wordSide u after
  | wordStartHalf u => !wordSide u before
  | wordEndHalf u => !wordSide u after

/-! ### Plans -/

/-- The meaning of a pattern. -/
inductive Plan where
  /-- Matches nothing, anywhere. -/
  | empty
  /-- Matches one character that passes a test. -/
  | one (test : Char → Bool)
  /-- Matches nothing where a condition holds. -/
  | condition (condition : Condition)
  /-- Matches a plan at least and at most so often. -/
  | repeated (least : Nat) (most : Option Nat) (greedy : Bool) (body : Plan)
  /-- Matches a plan and remembers the text under a name. -/
  | capture (name : List Char) (body : Plan)
  /-- Matches one plan and then another. -/
  | sequence (first second : Plan)
  /-- Matches one plan or else another. -/
  | choice (first second : Plan)

/-! ### Cursors and captures -/

/-- A place in a text: the character before it and the text behind it, with its length. -/
structure Cursor where
  before : Option Char
  rest : List Char
  left : Nat
  left_eq : left = rest.length

/-- The cursor in front of a whole text. -/
def Cursor.ofText (text : List Char) : Cursor := ⟨none, text, text.length, rfl⟩

/-- The next character and the cursor behind it. -/
def Cursor.next? (c : Cursor) : Option (Char × Cursor) :=
  match c with
  | ⟨_, [], _, _⟩ => none
  | ⟨_, d :: rest, left, h⟩ => some (d, ⟨some d, rest, left - 1, by simp [h]⟩)

/-- A remembered text: the first `length` characters of `source`. -/
structure Capture where
  name : List Char
  source : List Char
  length : Nat

/-- What has been remembered, the last first. -/
abbrev Captures := List Capture

/-- The remembered text of a name. -/
def Captures.text? (captures : Captures) (name : List Char) : Option (List Char) :=
  (captures.find? (·.name = name)).map fun capture => capture.source.take capture.length

/-! ### Runs -/

/-- What is left to do at a cursor once the captures are known. -/
abbrev Goal (α : Type) := Cursor → Captures → Option α

namespace Goal

/-- Tries a first goal before a second one if the first is preferred, after it otherwise. -/
def prefer (first : Bool) (a b : Goal α) : Goal α := fun c s =>
  if first then
    match a c s with
    | some x => some x
    | none => b c s
  else
    match b c s with
    | some x => some x
    | none => a c s

/-- A step made a given number of times. -/
def times (step : Goal α → Goal α) : Nat → Goal α → Goal α
  | 0, k => k
  | n + 1, k => step (times step n k)

/-- A step made at most a given number of times. -/
def upTo (step : Goal α → Goal α) (greedy : Bool) : Nat → Goal α → Goal α
  | 0, k => k
  | n + 1, k => prefer greedy (step (upTo step greedy n k)) k

/-- Further rounds of a step, each of which has to consume something. The number bounds how
many there are. -/
def rounds (step : Goal α → Goal α) (greedy : Bool) (k : Goal α) : Nat → Goal α
  | 0 => fun _ _ => none
  | n + 1 => fun c =>
    step (fun c' s => if c'.left < c.left then prefer greedy (rounds step greedy k n) k c' s
      else none) c

/-- A step made at least once. A first round that consumes nothing is the only one. -/
def onceOrMore (step : Goal α → Goal α) (greedy : Bool) (k : Goal α) : Goal α := fun c =>
  step (fun c' s =>
    if c'.left < c.left then prefer greedy (rounds step greedy k c.left) k c' s else k c' s) c

/-- A step made at least and at most so often. -/
def many (step : Goal α → Goal α) (greedy : Bool) (k : Goal α) (least : Nat) :
    Option Nat → Goal α
  | some most => times step least (upTo step greedy (most - least) k)
  | none =>
    match least with
    | 0 => prefer greedy (onceOrMore step greedy k) k
    | n + 1 => times step n (onceOrMore step greedy k)

end Goal

namespace Plan

/-- The first way of matching, in order of preference, that the goal accepts. -/
def run : Plan → Goal α → Goal α
  | empty, k => k
  | one test, k => fun c s =>
    match c.next? with
    | some (d, c') => if test d then k c' s else none
    | none => none
  | condition q, k => fun c s => if q.holds c.before c.rest.head? then k c s else none
  | repeated least most greedy body, k => Goal.many body.run greedy k least most
  | capture name body, k => fun c =>
    body.run (fun c' s => k c' (⟨name, c.rest, c.left - c'.left⟩ :: s)) c
  | sequence first second, k => first.run (second.run k)
  | choice first second, k => Goal.prefer true (first.run k) (second.run k)

/-- One plan or else another. Two tests of a single character make one test, so that a repeated
choice among characters has one way to take each of them. -/
def or : Plan → Plan → Plan
  | one f, one g => one fun c => f c || g c
  | p, q => choice p q

/-- Joining two tests changes no match: where the first test passes and the goal fails behind
the character, it fails there again after the second test. -/
theorem run_or (p q : Plan) (k : Goal α) : (p.or q).run k = (choice p q).run k := by
  fun_cases Plan.or p q with
  | case2 => rfl
  | case1 f g =>
    funext c s
    simp only [run, Goal.prefer, if_true]
    cases c.next? with
    | none => rfl
    | some step =>
      obtain ⟨d, c'⟩ := step
      cases hf : f d <;> cases hg : g d <;> cases hk : k c' s <;> simp [hf, hg, hk]

/-- The captures of the preferred match at one cursor. -/
def captures? (p : Plan) (c : Cursor) : Option Captures := p.run (fun _ s => some s) c []

/-- The captures of the first match at one of several cursors: the given one and as many
behind it as the number tells. -/
def searchFrom (p : Plan) : Nat → Cursor → Option Captures
  | 0, c => p.captures? c
  | n + 1, c =>
    match p.captures? c with
    | some s => some s
    | none =>
      match c.next? with
      | some (_, c') => searchFrom p n c'
      | none => none

/-- The captures of the leftmost match in a text. -/
def search? (p : Plan) (text : List Char) : Option Captures :=
  p.searchFrom text.length (.ofText text)

end Plan

end Pattern

end Timekeeper
