/-!
# Octets

Files and channels hold **octets**. An octet is kept as the character of the same number, so
that octets are compared with character literals, and all ASCII text is its own list of
octets.

`Octets.encode` writes characters in UTF-8. `Octets.decode` reads any octets as UTF-8 by a
machine that takes one octet a step: where the octets go wrong, each longest stretch that could
still have begun a character becomes one replacement character.
-/

namespace Timekeeper

/-- Octets, each as the character of the same number. -/
abbrev Octets := List Char

namespace Octets

/-- The octet of a number. -/
def octet (n : Nat) : Char := Char.ofNat (n % 256)

/-! ### Writing -/

/-- The octets of a character. -/
def encodeChar (c : Char) : Octets :=
  let n := c.toNat
  if n < 0x80 then [c]
  else if n < 0x800 then [octet (0xc0 + n / 64), octet (0x80 + n % 64)]
  else if n < 0x10000 then
    [octet (0xe0 + n / 4096), octet (0x80 + n / 64 % 64), octet (0x80 + n % 64)]
  else
    [octet (0xf0 + n / 262144), octet (0x80 + n / 4096 % 64), octet (0x80 + n / 64 % 64),
      octet (0x80 + n % 64)]

/-- The octets of a text. -/
def encode (text : List Char) : Octets := text.flatMap encodeChar

/-! ### Reading -/

/-- A character begun but not finished: what its octets so far are worth, how many octets are
still owed, and the least and the greatest number the next one can have. -/
structure Begun where
  value : Nat
  owed : Nat
  least : Nat
  greatest : Nat

/-- What an octet begins: a whole character or part of one, if anything. -/
def begin? (n : Nat) : Option (Char ⊕ Begun) :=
  if n < 0x80 then some (.inl (.ofNat n))
  else if 0xc2 ≤ n ∧ n ≤ 0xdf then some (.inr ⟨n - 0xc0, 1, 0x80, 0xbf⟩)
  else if n = 0xe0 then some (.inr ⟨0, 2, 0xa0, 0xbf⟩)
  else if n = 0xed then some (.inr ⟨0xd, 2, 0x80, 0x9f⟩)
  else if 0xe1 ≤ n ∧ n ≤ 0xef then some (.inr ⟨n - 0xe0, 2, 0x80, 0xbf⟩)
  else if n = 0xf0 then some (.inr ⟨0, 3, 0x90, 0xbf⟩)
  else if 0xf1 ≤ n ∧ n ≤ 0xf3 then some (.inr ⟨n - 0xf0, 3, 0x80, 0xbf⟩)
  else if n = 0xf4 then some (.inr ⟨4, 3, 0x80, 0x8f⟩)
  else none

/-- What stands for octets that are no character. -/
def replacement : Char := '\uFFFD'

/-- A state of the reading machine: the characters read so far, the last first, and the one
begun. -/
structure Reading where
  read : List Char
  begun : Option Begun

/-- Reads an octet between characters. -/
def Reading.start (read : List Char) (n : Nat) : Reading :=
  match begin? n with
  | some (.inl c) => ⟨c :: read, none⟩
  | some (.inr b) => ⟨read, some b⟩
  | none => ⟨replacement :: read, none⟩

/-- Reads an octet. One that does not continue the character begun ends it, and is read again
between characters. -/
def Reading.step (r : Reading) (o : Char) : Reading :=
  let n := o.toNat
  match r.begun with
  | none => .start r.read n
  | some b =>
    if b.least ≤ n ∧ n ≤ b.greatest then
      let value := b.value * 64 + (n - 0x80)
      if b.owed ≤ 1 then ⟨.ofNat value :: r.read, none⟩
      else ⟨r.read, some ⟨value, b.owed - 1, 0x80, 0xbf⟩⟩
    else .start (replacement :: r.read) n

/-- The characters of a reading at its end. -/
def Reading.close (r : Reading) : List Char :=
  (match r.begun with
    | some _ => replacement :: r.read
    | none => r.read).reverse

/-- The text of octets. -/
def decode (octets : Octets) : List Char := (octets.foldl Reading.step ⟨[], none⟩).close

/-- The octets of a string. -/
def ofString (s : String) : Octets := encode s.toList

/-- The string of octets. -/
def toString (octets : Octets) : String := String.ofList (decode octets)

end Octets

end Timekeeper
