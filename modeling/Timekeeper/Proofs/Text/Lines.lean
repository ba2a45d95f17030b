import Timekeeper.Text.Lines
import Mathlib.Data.List.Basic

/-!
# The lines of a text

A text is cut at its line feeds from the end on. Seen from the front, the first piece is what stands
in front of the first line feed (`Text.splitLines_of_mem`), so the first line is that piece, without
the carriage return that may close it. A text without a line feed is its own first line.

No line has a line feed in it (`Text.not_mem_of_mem_lines`), and only the empty text has no lines.
-/

namespace Timekeeper

namespace Text

/-- What the **first line** of a text is. -/
inductive FirstLine : List Char → List Char → Prop
  /-- The text has one line. -/
  | only {line : List Char} : '\n' ∉ line → FirstLine line line
  /-- The line ends with a line feed. -/
  | closed {line rest : List Char} : '\n' ∉ line → line.getLast? ≠ some '\r' →
    FirstLine (line ++ '\n' :: rest) line
  /-- The line ends with a carriage return and a line feed. -/
  | returned {line rest : List Char} : '\n' ∉ line → FirstLine (line ++ '\r' :: '\n' :: rest) line

theorem splitStep_of_ne {c : Char} (h : c ≠ '\n') (line : List Char) (others : List (List Char)) :
    splitStep c (line :: others) = (c :: line) :: others := if_neg h

theorem splitLines_of_not_mem {text : List Char} (h : '\n' ∉ text) : splitLines text = [text] := by
  induction text with
  | nil => rfl
  | cons c text ih =>
    rw [List.mem_cons, not_or] at h
    rw [splitLines_cons, ih h.2, splitStep_of_ne (Ne.symm h.1)]

/-- A line feed divides the pieces in front of it from those behind it. -/
theorem splitLines_append (front rest : List Char) :
    splitLines (front ++ '\n' :: rest) = splitLines front ++ splitLines rest := by
  induction front with
  | nil => rfl
  | cons c front ih =>
    obtain ⟨piece, pieces, hpieces⟩ := List.exists_cons_of_ne_nil (splitLines_ne_nil front)
    rw [List.cons_append, splitLines_cons, splitLines_cons, ih, hpieces]
    by_cases hc : c = '\n'
    · simp [splitStep, hc]
    · simp [splitStep, hc]

theorem splitLines_of_mem {line : List Char} (h : '\n' ∉ line) (rest : List Char) :
    splitLines (line ++ '\n' :: rest) = line :: splitLines rest := by
  rw [splitLines_append, splitLines_of_not_mem h, List.singleton_append]

/-- The first of the lines of a text is its first line, and it is empty if there are no lines. -/
theorem firstLine_headD (text : List Char) : FirstLine text ((lines text).headD []) := by
  by_cases hline : '\n' ∈ text
  · obtain ⟨line, rest, rfl, hnone⟩ := List.eq_append_cons_of_mem hline
    have hhead : (lines (line ++ '\n' :: rest)).headD [] = dropReturn line := by
      obtain ⟨piece, pieces, hpieces⟩ := List.exists_cons_of_ne_nil (splitLines_ne_nil rest)
      rw [lines, splitLines_of_mem hnone, hpieces]
      rfl
    rw [hhead, dropReturn]
    split
    · rename_i hlast
      obtain ⟨front, rfl⟩ := List.getLast?_eq_some_iff.mp hlast
      rw [List.dropLast_concat, List.append_assoc]
      exact .returned fun hmem => hnone (List.mem_append_left _ hmem)
    · rename_i hlast
      exact .closed hnone hlast
  · have hhead : (lines text).headD [] = text := by
      rw [lines, splitLines_of_not_mem hline]
      cases text <;> rfl
    rw [hhead]
    exact .only hline

/-! ### All lines -/

theorem not_mem_of_mem_splitLines {text line : List Char} (h : line ∈ splitLines text) :
    '\n' ∉ line := by
  induction text generalizing line with
  | nil =>
    rw [splitLines_nil, List.mem_singleton] at h
    exact h ▸ List.not_mem_nil
  | cons c text ih =>
    obtain ⟨piece, pieces, hpieces⟩ := List.exists_cons_of_ne_nil (splitLines_ne_nil text)
    rw [hpieces] at ih
    rw [splitLines_cons, hpieces] at h
    by_cases hc : c = '\n'
    · rw [hc, splitStep, if_pos rfl] at h
      obtain rfl | hmem := List.mem_cons.mp h
      · exact List.not_mem_nil
      · exact ih hmem
    · rw [splitStep_of_ne hc] at h
      obtain rfl | hmem := List.mem_cons.mp h
      · have hpiece : '\n' ∉ piece := ih List.mem_cons_self
        exact List.not_mem_cons_of_ne_of_not_mem (Ne.symm hc) hpiece
      · exact ih (List.mem_cons_of_mem _ hmem)

theorem dropReturn_sublist (line : List Char) : (dropReturn line).Sublist line := by
  rw [dropReturn]
  split
  · exact List.dropLast_sublist line
  · exact List.Sublist.refl line

/-- Every line comes from a piece. -/
theorem exists_splitLines_of_mem_lines {text line : List Char} (h : line ∈ lines text) :
    ∃ piece ∈ splitLines text, line.Sublist piece := by
  rw [lines] at h
  obtain hclosed | hlast := List.mem_append.mp h
  · obtain ⟨piece, hpiece, rfl⟩ := List.mem_map.mp hclosed
    exact ⟨piece, (List.dropLast_sublist _).subset hpiece, dropReturn_sublist piece⟩
  · split at hlast
    · rename_i hsome
      rw [List.mem_singleton.mp hlast]
      exact ⟨_, List.mem_of_getLast? hsome, List.Sublist.refl _⟩
    · contradiction

theorem not_mem_of_mem_lines {text line : List Char} (h : line ∈ lines text) : '\n' ∉ line := by
  obtain ⟨piece, hpiece, hsublist⟩ := exists_splitLines_of_mem_lines h
  intro hmem
  exact not_mem_of_mem_splitLines hpiece (hsublist.subset hmem)

/-- Only the empty text has no lines. -/
theorem lines_eq_nil_iff {text : List Char} : lines text = [] ↔ text = [] := by
  refine ⟨fun h => ?_, fun h => h ▸ rfl⟩
  by_cases hline : '\n' ∈ text
  · obtain ⟨line, rest, rfl, hnone⟩ := List.eq_append_cons_of_mem hline
    obtain ⟨piece, pieces, hpieces⟩ := List.exists_cons_of_ne_nil (splitLines_ne_nil rest)
    rw [lines, splitLines_of_mem hnone, hpieces] at h
    exact absurd h (List.cons_ne_nil _ _)
  · rw [lines, splitLines_of_not_mem hline] at h
    cases text with
    | nil => rfl
    | cons c text => exact absurd h (List.cons_ne_nil _ _)

end Text

end Timekeeper
