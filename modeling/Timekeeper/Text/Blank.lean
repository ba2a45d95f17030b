import Timekeeper.Unicode.Property

/-!
# Blank characters

White space, and texts with the white space at their ends removed.
-/

namespace Timekeeper

namespace Text

/-- White space: the ASCII blanks and control breaks, the no-break spaces, the spaces of
various widths and the two separators. -/
def isBlank (c : Char) : Bool :=
  let n := c.toNat
  (9 ≤ n && n ≤ 13) || n == 0x20 || n == 0x85 || n == 0xa0 || n == 0x1680
    || (0x2000 ≤ n && n ≤ 0x200a) || n == 0x2028 || n == 0x2029 || n == 0x202f || n == 0x205f
    || n == 0x3000

/-- The text without the white space at its end. -/
def trimEnd (text : List Char) : List Char := (text.reverse.dropWhile isBlank).reverse

/-- The text without the white space at both ends. -/
def trim (text : List Char) : List Char := trimEnd (text.dropWhile isBlank)

/-- A trimmed text ends in no white space. -/
theorem not_isBlank_getLast_trimEnd {text : List Char} {c : Char}
    (h : (trimEnd text).getLast? = some c) : isBlank c = false := by
  rw [trimEnd, List.getLast?_reverse] at h
  have := List.head?_dropWhile_not isBlank text.reverse
  rw [h] at this
  simpa using this

end Text

end Timekeeper
