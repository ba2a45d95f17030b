import Timekeeper.Unicode.Property

/-!
# Quoted paths

A path is shown between double quotes with everything escaped that would not show itself:
the quote and the backslash, control characters, characters without a shape, and marks that
would attach to the character before them.
-/

namespace Timekeeper

namespace Text

/-- Whether a character has a shape of its own: it is assigned, and neither a control, a
format, a private use character nor a separator other than the space. -/
def isPrintable (c : Char) : Bool :=
  c == ' ' ||
    (Unicode.Property.categories.any fun row =>
      !(["cc", "cf", "co", "zl", "zp", "zs"].contains (row.1.headD "")) && row.2.contains c)

/-- A code point in hexadecimal between braces. -/
def escapePoint (c : Char) : List Char :=
  ['\\', 'u', '\x7b'] ++ Nat.toDigits 16 c.toNat ++ ['\x7d']

/-- How one character is shown inside the quotes. -/
def escapeChar (c : Char) : List Char :=
  if c = '\x00' then ['\\', '0']
  else if c = '\t' then ['\\', 't']
  else if c = '\n' then ['\\', 'n']
  else if c = '\r' then ['\\', 'r']
  else if c = '"' then ['\\', '"']
  else if c = '\\' then ['\\', '\\']
  else if 0x20 ≤ c.toNat && c.toNat < 0x7f then [c]
  else if Unicode.graphemeExtend.contains c || !isPrintable c then escapePoint c
  else [c]

/-- A text between double quotes. -/
def quoted (text : List Char) : List Char := ['"'] ++ text.flatMap escapeChar ++ ['"']

end Text

end Timekeeper
