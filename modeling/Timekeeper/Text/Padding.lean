/-!
# Padding

Texts brought to a width, counted in characters. A text that is already as wide stays as
it is.
-/

namespace Timekeeper

namespace Text

/-- A text followed by spaces up to a width. -/
def padRight (width : Nat) (text : List Char) : List Char :=
  text ++ List.replicate (width - text.length) ' '

/-- A text between spaces up to a width; of an odd number of spaces the right side has the
larger part. -/
def center (width : Nat) (text : List Char) : List Char :=
  let gap := width - text.length
  List.replicate (gap / 2) ' ' ++ text ++ List.replicate (gap - gap / 2) ' '

theorem length_padRight (width : Nat) (text : List Char) :
    (padRight width text).length = max width text.length := by
  simp [padRight]
  omega

end Text

end Timekeeper
