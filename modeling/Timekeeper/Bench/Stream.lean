import Timekeeper.Text.Octets

/-!
# Streams

What a program reads: octets, and behind them possibly some more that are repeated without
end.
-/

namespace Timekeeper

namespace Bench

/-- Octets to be read, and what is repeated without end behind them; nothing, mostly. -/
structure Stream where
  octets : Octets
  endless : Octets
deriving DecidableEq, Inhabited

namespace Stream

/-- The stream of octets that end. -/
def ofOctets (octets : Octets) : Stream := ⟨octets, []⟩

/-- The stream without octets. -/
def empty : Stream := ⟨[], []⟩

/-- Whether a stream ends. -/
def ends (s : Stream) : Bool := s.endless.isEmpty

/-- A stream with each octet changed or left out. -/
def filterMap (f : Char → Option Char) (s : Stream) : Stream :=
  ⟨s.octets.filterMap f, s.endless.filterMap f⟩

/-- Two streams, one behind the other. Behind one that does not end nothing is ever read. -/
def append (first second : Stream) : Stream :=
  if first.ends then ⟨first.octets ++ second.octets, second.endless⟩ else first

/-- So many octets of a stream, or all if there are fewer. -/
def take (count : Nat) (s : Stream) : Octets :=
  let present := s.octets.take count
  let missing := count - present.length
  if s.ends then present
  else
    let rounds := missing / s.endless.length + 1
    present ++ ((List.replicate rounds s.endless).flatten).take missing

/-- So many lines of a stream, or all if there are fewer. -/
def takeLines (count : Nat) (s : Stream) : Octets :=
  let rec go (left : Nat) : Octets → Octets → Octets
    | [], taken => taken.reverse
    | c :: rest, taken =>
      if left = 0 then taken.reverse
      else go (if c = '\n' then left - 1 else left) rest (c :: taken)
  if s.ends then go count s.octets []
  else go count (s.octets ++ (List.replicate (count + 1) s.endless).flatten) []

end Stream

/-! ### Lines of octets -/

/-- Puts one octet in front of the lines behind it. -/
def lineStep (c : Char) (lines : List Octets) : List Octets :=
  if c = '\n' then [] :: lines
  else
    match lines with
    | [] => [[c]]
    | line :: others => (c :: line) :: others

/-- The lines of octets, without their line feeds. What follows the last line feed is a line if
it is not empty. -/
def linesOf (octets : Octets) : List Octets :=
  let pieces := octets.foldr lineStep [[]]
  if pieces.getLast? = some [] then pieces.dropLast else pieces

/-- Lines with a line feed behind each. -/
def closeLines (lines : List Octets) : Octets := lines.flatMap (· ++ ['\n'])

/-- The pieces of octets between separators. -/
def splitOn (separator : Char) (octets : Octets) : List Octets :=
  octets.foldr (fun c pieces =>
    if c = separator then [] :: pieces
    else
      match pieces with
      | [] => [[c]]
      | piece :: others => (c :: piece) :: others) [[]]

/-- Octets with a separator between them. -/
def joinWith (separator : Octets) (pieces : List Octets) : Octets :=
  List.intercalate separator pieces

/-- A natural number in decimal. -/
def decimal (n : Nat) : Octets := Nat.toDigits 10 n

/-- A whole number in decimal. -/
def signedDecimal (n : Int) : Octets := (if n < 0 then ['-'] else []) ++ decimal n.natAbs

/-- The number that decimal digits write. -/
def natOf? (octets : Octets) : Option Nat :=
  if octets.isEmpty || !octets.all Char.isDigit then none
  else some (octets.foldl (fun n c => n * 10 + (c.toNat - '0'.toNat)) 0)

/-- The whole number that decimal digits with an optional sign write. -/
def intOf? (octets : Octets) : Option Int :=
  match octets with
  | '-' :: digits => (natOf? digits).map fun n => -(n : Int)
  | '+' :: digits => (natOf? digits).map Int.ofNat
  | digits => (natOf? digits).map Int.ofNat

end Bench

end Timekeeper
