import Timekeeper.Proofs.Report.Totals
import Timekeeper.Proofs.Text.Lines
import Mathlib.Data.List.DropRight

/-!
# Ranked totals as they are read

A report is read from its text, without knowing what it was made from. The text is cut into lines
again; in its file the numbered lines are the ones at the end, in front of the last rule
(`numberedPart`). A line is then read from both ends. In front stands the position, at the end the
total, which is two words, and what is left between them is the language.

* An **entry** is a numbered line of the file. The language in it is read as it is
  (`FileEntry.read_numberedLine`).
* A **row** is a line of the table. The language stands in a column that is filled up with blanks,
  so it is read with these (`TableRow.read_podiumRow`), and the comparison stands behind the total.
-/

namespace Timekeeper

open Binary64

namespace Report

/-! ### Lines of a text -/

/-- The lines of a text that ends in a line feed. -/
def linesOf (text : List Char) : List Line := (Text.splitLines text).dropLast

/-- Closed lines are read again, each cut at the line feeds that it has itself. -/
theorem linesOf_closed (lines : List Line) :
    linesOf (closed lines) = lines.flatMap Text.splitLines := by
  induction lines with
  | nil => rfl
  | cons line lines ih =>
    have hclosed : closed (line :: lines) = line ++ '\n' :: closed lines := by simp [closed]
    have hne := Text.splitLines_ne_nil (closed lines)
    rw [linesOf, hclosed, Text.splitLines_append, List.dropLast_append_of_ne_nil hne,
      List.flatMap_cons, ← ih, linesOf]

theorem flatMap_splitLines {lines : List Line} (h : ∀ line ∈ lines, '\n' ∉ line) :
    lines.flatMap Text.splitLines = lines := by
  have hsingle : lines.flatMap Text.splitLines = lines.flatMap fun line => [line] :=
    List.flatMap_congr fun line hline => Text.splitLines_of_not_mem (h line hline)
  rw [hsingle, List.flatMap_singleton']

/-- The numbered lines of a file: what stands in front of its last two lines, back to an empty
one. -/
def numberedPart (lines : List Line) : List Line :=
  ((lines.reverse.drop 2).takeWhile fun line => !line.isEmpty).reverse

theorem numberedPart_append {numbered : List Line} (h : ∀ line ∈ numbered, line ≠ [])
    (front : List Line) (last : Line) :
    numberedPart (front ++ [] :: (numbered ++ [[], last])) = numbered := by
  have hreverse : (front ++ [] :: (numbered ++ [[], last])).reverse =
      last :: [] :: (numbered.reverse ++ [] :: front.reverse) := by simp
  have hnumbered : ∀ line ∈ numbered.reverse, (!line.isEmpty) = true := by
    intro line hline
    have hne := h line (List.mem_reverse.mp hline)
    simpa using hne
  rw [numberedPart, hreverse, List.drop_succ_cons, List.drop_succ_cons, List.drop_zero,
    List.takeWhile_append_of_pos hnumbered, List.takeWhile_cons_of_neg (by simp), List.append_nil,
    List.reverse_reverse]

/-! ### Numbers in front -/

/-- The number that a text begins with. -/
def leadingNumber (text : List Char) : Nat := Nat.ofDigitChars 10 (text.takeWhile Char.isDigit) 0

theorem numeral_ne_nil (n : Nat) : numeral n ≠ [] := Nat.toDigits_ne_nil

theorem isDigit_of_mem_numeral {n : Nat} {c : Char} (h : c ∈ numeral n) : c.isDigit = true :=
  Nat.isDigit_of_mem_toDigits (by decide) (by decide) h

theorem takeWhile_numeral (n : Nat) {c : Char} (hc : c.isDigit = false) (rest : List Char) :
    (numeral n ++ c :: rest).takeWhile Char.isDigit = numeral n ∧
      (numeral n ++ c :: rest).dropWhile Char.isDigit = c :: rest := by
  have hdigits : ∀ d ∈ numeral n, d.isDigit = true := fun d hd => isDigit_of_mem_numeral hd
  rw [List.takeWhile_append_of_pos hdigits, List.dropWhile_append_of_pos hdigits,
    List.takeWhile_cons_of_neg (by simp [hc]), List.dropWhile_cons_of_neg (by simp [hc]),
    List.append_nil]
  exact ⟨rfl, rfl⟩

theorem leadingNumber_numeral (n : Nat) {c : Char} (hc : c.isDigit = false) (rest : List Char) :
    leadingNumber (numeral n ++ c :: rest) = n := by
  rw [leadingNumber, (takeWhile_numeral n hc rest).1]
  exact Nat.ofDigitChars_ten_toDigits

/-! ### Texts without a line feed -/

theorem lineFeed_not_mem_fixed (x : Binary64) (places : Nat) : '\n' ∉ x.fixed places := by
  intro h
  obtain hdigit | hmark := mem_fixed h
  · exact absurd hdigit (by decide)
  · exact absurd hmark (by decide)

theorem lineFeed_not_mem_numeral (n : Nat) : '\n' ∉ numeral n := by
  intro h
  exact absurd (isDigit_of_mem_numeral h) (by decide)

theorem lineFeed_not_mem_duration (x : Option Binary64) : '\n' ∉ duration x := by
  have hunit : '\n' ∉ " µs".toList ∧ '\n' ∉ " ms".toList ∧ '\n' ∉ " s".toList := by decide
  unfold duration
  split
  · decide
  split
  · decide
  split
  · exact List.not_mem_append (lineFeed_not_mem_fixed _ _) hunit.1
  split
  · exact List.not_mem_append (lineFeed_not_mem_fixed _ _) hunit.2.1
  · exact List.not_mem_append (lineFeed_not_mem_fixed _ _) hunit.2.2

theorem lineFeed_not_mem_padRight {text : List Char} (h : '\n' ∉ text) (width : Nat) :
    '\n' ∉ Text.padRight width text := by
  refine List.not_mem_append h ?_
  intro hmem
  exact absurd (List.eq_of_mem_replicate hmem) (by decide)

/-! ### Entries of the file -/

/-- An **entry** of the file as it is read. -/
structure FileEntry where
  position : Nat
  language : List Char
  total : List Char
deriving DecidableEq

/-- Reads a numbered line. A point and a blank stand in front of the language, a colon and a blank
behind it. -/
def FileEntry.read (line : Line) : FileEntry where
  position := leadingNumber line
  language := ((line.dropWhile Char.isDigit).drop 2).rdrop ((lastWords line).length + 2)
  total := lastWords line

/-- The entry of a placing. -/
def FileEntry.of (p : Placing) : FileEntry :=
  ⟨p.position, p.language.toList, duration (some p.total)⟩

theorem rdrop_append {α : Type} (front behind : List α) {n : Nat} (h : behind.length = n) :
    (front ++ behind).rdrop n = front := by
  rw [List.rdrop, List.length_append, h, Nat.add_sub_cancel, List.take_left]

theorem FileEntry.read_numberedLine (p : Placing) : read (numberedLine p) = of p := by
  let total := duration (some p.total)
  have hline : numberedLine p =
      numeral p.position ++ '.' :: ' ' :: (p.language.toList ++ ':' :: ' ' :: total) := by
    simp [numberedLine, total]
  have htotal : lastWords (numberedLine p) = total := by
    have hfront : numberedLine p = numeral p.position ++ ". ".toList ++ p.language.toList ++
        [':'] ++ ' ' :: duration (some p.total) ++ List.replicate 0 ' ' := by
      simp [numberedLine]
    rw [hfront, lastWords_append_duration]
  have hlanguage : (p.language.toList ++ ':' :: ' ' :: total).rdrop (total.length + 2) =
      p.language.toList := rdrop_append _ _ rfl
  rw [read, htotal, hline, leadingNumber_numeral _ (by decide),
    (takeWhile_numeral _ (by decide) _).2, List.drop_succ_cons, List.drop_succ_cons,
    List.drop_zero, hlanguage]
  rfl

/-! ### Rows of the table -/

/-- A **row** of the table as it is read. -/
structure TableRow where
  position : Nat
  /-- The column of the language, with the blanks that fill it up. -/
  language : List Char
  total : List Char
  comparison : List Char
deriving DecidableEq

/-- Reads a row. The position is the first number in it, in a column of three; the total stands in
a column of eighteen, and blanks divide the columns. -/
def TableRow.read (row : Line) : TableRow :=
  let front := beforeComparison row
  let behindMedal := front.dropWhile fun c => !c.isDigit
  let number := behindMedal.takeWhile Char.isDigit
  let total := lastWords front
  { position := leadingNumber behindMedal
    language := (behindMedal.drop (max 3 number.length + 1)).rdrop (max 18 total.length + 2)
    total := total
    comparison := row.drop front.length }

/-- The row of a placing. -/
def TableRow.of (p : Placing) : TableRow :=
  ⟨p.position, Text.padRight 15 p.language.toList, duration (some p.total), slowdown p⟩

/-- Behind a padded text comes a blank, be it of the padding or not. -/
private theorem padRight_append (width : Nat) (text rest : List Char) :
    Text.padRight width text ++ ' ' :: rest =
      text ++ ' ' :: (List.replicate (width - text.length) ' ' ++ rest) := by
  have hpad : List.replicate (width - text.length) ' ' ++ [' '] =
      ' ' :: List.replicate (width - text.length) ' ' := by
    rw [← List.replicate_succ', List.replicate_succ]
  rw [Text.padRight, List.append_assoc, List.append_cons, hpad, List.cons_append]

/-- What stands in a row between the language and the comparison. -/
private def totalColumn (p : Placing) : List Char :=
  ' ' :: duration (some p.total) ++
    List.replicate (18 - (duration (some p.total)).length + 1) ' '

/-- What stands in a row between the medal and the comparison. -/
private def columns (p : Placing) : List Char :=
  Text.padRight 3 (numeral p.position) ++ ' ' ::
    (Text.padRight 15 p.language.toList ++ totalColumn p)

private theorem beforeComparison_podiumRow (p : Placing) :
    beforeComparison (podiumRow p) = [' ', ' '] ++ medal p.position ++ [' '] ++ columns p := by
  rw [podiumRow_eq, beforeComparison_append_slowdown]
  simp [columns, totalColumn]

private theorem lastWords_columns (front : Line) (p : Placing) :
    lastWords (front ++ columns p) = duration (some p.total) := by
  have hcolumns : front ++ columns p = front ++ Text.padRight 3 (numeral p.position) ++ [' '] ++
      Text.padRight 15 p.language.toList ++ ' ' :: duration (some p.total) ++
        List.replicate (18 - (duration (some p.total)).length + 1) ' ' := by
    simp [columns, totalColumn]
  rw [hcolumns, lastWords_append_duration]

private theorem columns_eq (p : Placing) : columns p = numeral p.position ++ ' ' ::
    (List.replicate (3 - (numeral p.position).length) ' ' ++
      (Text.padRight 15 p.language.toList ++ totalColumn p)) := padRight_append _ _ _

/-- No medal has a digit, so the first digit of a row is that of the position. -/
private theorem dropWhile_columns (p : Placing) :
    ([' ', ' '] ++ medal p.position ++ [' '] ++ columns p).dropWhile (fun c => !c.isDigit) =
      columns p := by
  have hmedal : (medal p.position).all (fun c => !c.isDigit) = true := by
    unfold medal
    split <;> rfl
  have hfront : ∀ c ∈ [' ', ' '] ++ medal p.position ++ [' '], (!c.isDigit) = true := by
    refine List.all_eq_true.mp ?_
    rw [List.all_append, List.all_append, hmedal]
    rfl
  obtain ⟨d, digits, hdigits⟩ := List.exists_cons_of_ne_nil (numeral_ne_nil p.position)
  have hdigit : d.isDigit = true := isDigit_of_mem_numeral (hdigits ▸ List.mem_cons_self)
  rw [List.dropWhile_append_of_pos hfront, columns_eq, hdigits, List.cons_append,
    List.dropWhile_cons_of_neg (by simp [hdigit])]

/-- The language is what is left of the columns between those of the position and the total. -/
private theorem rdrop_drop_columns (p : Placing) :
    ((columns p).drop (max 3 (numeral p.position).length + 1)).rdrop
      (max 18 (duration (some p.total)).length + 2) = Text.padRight 15 p.language.toList := by
  have hposition : (Text.padRight 3 (numeral p.position) ++ [' ']).length =
      max 3 (numeral p.position).length + 1 := by
    rw [List.length_append, Text.length_padRight, List.length_singleton]
  have htotal : (totalColumn p).length = max 18 (duration (some p.total)).length + 2 := by
    simp only [totalColumn, List.length_append, List.length_cons, List.length_replicate]
    omega
  rw [columns, List.append_cons, List.drop_left' hposition, rdrop_append _ _ htotal]

theorem TableRow.read_podiumRow (p : Placing) : read (podiumRow p) = of p := by
  have hblank : ' '.isDigit = false := by decide
  have hposition : leadingNumber (columns p) = p.position := by
    rw [columns_eq, leadingNumber_numeral _ hblank]
  have hnumber : (columns p).takeWhile Char.isDigit = numeral p.position := by
    rw [columns_eq, (takeWhile_numeral _ hblank _).1]
  have hcomparison :
      (podiumRow p).drop ([' ', ' '] ++ medal p.position ++ [' '] ++ columns p).length =
        slowdown p := by
    rw [← beforeComparison_podiumRow, podiumRow_eq, beforeComparison_append_slowdown,
      List.drop_left]
  rw [read, beforeComparison_podiumRow, hcomparison, dropWhile_columns, lastWords_columns,
    hposition, hnumber, rdrop_drop_columns]
  rfl

end Report

end Timekeeper
