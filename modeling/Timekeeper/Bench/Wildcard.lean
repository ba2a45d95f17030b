import Timekeeper.Text.Octets

/-!
# Wildcards

A **wildcard** describes names: an asterisk stands for any octets, a question mark for one, and
brackets for one of several. An octet that was quoted stands for itself.
-/

namespace Timekeeper

namespace Bench

/-- A part of a wildcard. -/
inductive Wild where
  | exactly (c : Char)
  | one
  | any
  | among (negated : Bool) (ranges : List (Char × Char))
deriving DecidableEq

namespace Wild

/-- The ranges of a class by name. -/
def namedRanges (name : Octets) : List (Char × Char) :=
  match String.ofList name with
  | "alpha" => [('a', 'z'), ('A', 'Z')]
  | "digit" => [('0', '9')]
  | "alnum" => [('a', 'z'), ('A', 'Z'), ('0', '9')]
  | "upper" => [('A', 'Z')]
  | "lower" => [('a', 'z')]
  | "space" => [(' ', ' '), ('\t', '\r')]
  | "blank" => [(' ', ' '), ('\t', '\t')]
  | "punct" => [('!', '/'), (':', '@'), ('[', '\x60'), ('\x7b', '~')]
  | "xdigit" => [('0', '9'), ('a', 'f'), ('A', 'F')]
  | "cntrl" => [('\x00', '\x1f'), ('\x7f', '\x7f')]
  | "print" => [(' ', '~')]
  | "graph" => [('!', '~')]
  | _ => []

/-- Whether ranges hold an octet. -/
def holds (ranges : List (Char × Char)) (c : Char) : Bool :=
  ranges.any fun (low, high) => low ≤ c && c ≤ high

/-- The ranges between brackets and what follows the closing one. A bracket right behind the
opening one is a member. -/
def members? : Nat → Bool → List (Char × Char) → Octets → Option (List (Char × Char) × Octets)
  | 0, _, _, _ => none
  | _, _, _, [] => none
  | fuel + 1, first, ranges, ']' :: rest =>
    if first then members? fuel false ((']', ']') :: ranges) rest else some (ranges, rest)
  | fuel + 1, _, ranges, '[' :: ':' :: rest =>
    let name := rest.takeWhile (· ≠ ':')
    match rest.drop name.length with
    | ':' :: ']' :: rest' => members? fuel false (namedRanges name ++ ranges) rest'
    | _ => members? fuel false (('[', '[') :: ranges) (':' :: rest)
  | fuel + 1, _, ranges, low :: '-' :: high :: rest =>
    if high = ']' then members? fuel false (('-', '-') :: (low, low) :: ranges) (']' :: rest)
    else members? fuel false ((low, high) :: ranges) rest
  | fuel + 1, _, ranges, c :: rest => members? fuel false ((c, c) :: ranges) rest

/-- A bracketed class behind its opening bracket, and what follows it. -/
def among? (octets : Octets) : Option (Wild × Octets) :=
  let (negated, body) :=
    match octets with
    | '!' :: rest => (true, rest)
    | '^' :: rest => (true, rest)
    | _ => (false, octets)
  (members? (octets.length + 1) true [] body).map fun (ranges, rest) =>
    (.among negated ranges, rest)

/-- The wildcard of octets, each with a mark that tells whether it was quoted. -/
def ofMarked : Nat → List (Char × Bool) → List Wild
  | 0, _ => []
  | _, [] => []
  | fuel + 1, (c, true) :: rest => .exactly c :: ofMarked fuel rest
  | fuel + 1, ('*', false) :: rest => .any :: ofMarked fuel rest
  | fuel + 1, ('?', false) :: rest => .one :: ofMarked fuel rest
  | fuel + 1, ('[', false) :: rest =>
    match among? (rest.map Prod.fst) with
    | some (wild, after) => wild :: ofMarked fuel (rest.drop (rest.length - after.length))
    | none => .exactly '[' :: ofMarked fuel rest
  | fuel + 1, (c, false) :: rest => .exactly c :: ofMarked fuel rest

/-- The wildcard of marked octets. -/
def read (marked : List (Char × Bool)) : List Wild := ofMarked (marked.length + 1) marked

/-- Whether marked octets ask for more than one name. -/
def isActive (marked : List (Char × Bool)) : Bool :=
  marked.any fun (c, quoted) => !quoted && (c = '*' || c = '?' || c = '[')

/-- Whether octets pass a test with some of them taken away in front. -/
def anyTail (test : Octets → Bool) : Octets → Bool
  | [] => test []
  | c :: rest => test (c :: rest) || anyTail test rest

/-- Whether a wildcard describes octets. -/
def describes : List Wild → Octets → Bool
  | [], text => text.isEmpty
  | .exactly c :: rest, text =>
    match text with
    | d :: text' => c = d && describes rest text'
    | [] => false
  | .one :: rest, text =>
    match text with
    | _ :: text' => describes rest text'
    | [] => false
  | .among negated ranges :: rest, text =>
    match text with
    | d :: text' => holds ranges d != negated && describes rest text'
    | [] => false
  | .any :: rest, text => anyTail (describes rest) text

/-- Octets without the shortest or longest front that a wildcard describes. -/
def cutFront (longest : Bool) (wild : List Wild) (text : Octets) : Octets :=
  let lengths := List.range (text.length + 1)
  let order := if longest then lengths.reverse else lengths
  match order.find? fun n => describes wild (text.take n) with
  | some n => text.drop n
  | none => text

/-- Octets without the shortest or longest back that a wildcard describes. -/
def cutBack (longest : Bool) (wild : List Wild) (text : Octets) : Octets :=
  let lengths := List.range (text.length + 1)
  let order := if longest then lengths else lengths.reverse
  match order.find? fun n => describes wild (text.drop n) with
  | some n => text.take n
  | none => text

end Wild

end Bench

end Timekeeper
