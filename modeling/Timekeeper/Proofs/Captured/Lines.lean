import Timekeeper.Captured
import Timekeeper.Proofs.Text.Lines

/-!
# Nothing is lost between two channels

The output and the errors of a process are put together with at most a line feed between them,
which stands there only where it closes a line that the output left open. So the lines of the whole
are those of the output and then those of the errors, and it does not matter in which order three
texts are put together (`Captured.combine_keeps`).

Lines are those between line feeds here. A carriage return belongs to its line, and the text behind
the last line feed is a line unless it is empty.
-/

namespace Timekeeper

namespace Captured

variable {output errors : List Char}

/-! ### What stands between two texts -/

/-- The **gap** between the output and the errors. -/
def gap (output errors : List Char) : List Char :=
  if output = [] ∨ errors = [] ∨ output.getLast? = some '\n' then [] else ['\n']

theorem combine_eq_append (output errors : List Char) :
    combine output errors = output ++ (gap output errors ++ errors) := by
  by_cases herrors : errors = []
  · simp [combine, gap, herrors]
  · by_cases houtput : output = []
    · simp [combine, gap, houtput]
    · by_cases hline : output.getLast? = some '\n' <;>
        simp [combine, gap, herrors, houtput, hline]

theorem combine_eq_nil_iff : combine output errors = [] ↔ output = [] ∧ errors = [] := by
  rw [combine_eq_append, List.append_eq_nil_iff, List.append_eq_nil_iff]
  refine ⟨fun h => ⟨h.1, h.2.2⟩, fun h => ⟨h.1, ?_, h.2⟩⟩
  exact if_pos (.inl h.1)

/-- The errors end the whole. -/
theorem getLast?_combine (h : errors ≠ []) :
    (combine output errors).getLast? = errors.getLast? := by
  rw [combine_eq_append, ← List.append_assoc, List.getLast?_append_of_ne_nil _ h]

/-- What follows another text decides about the gap in front of that only by being empty or not. -/
theorem gap_combine_right (output : List Char) {middle last : List Char} (h : middle ≠ []) :
    gap output (combine middle last) = gap output middle := by
  simp only [gap, combine_eq_nil_iff, h, false_and]

/-- What comes before another text decides nothing about the gap behind that. -/
theorem gap_combine_left {first middle : List Char} (h : middle ≠ []) (errors : List Char) :
    gap (combine first middle) errors = gap middle errors := by
  simp only [gap, combine_eq_nil_iff, getLast?_combine h, h, and_false]

theorem combine_assoc (first middle last : List Char) :
    combine (combine first middle) last = combine first (combine middle last) := by
  by_cases h : middle = []
  · rw [h, combine_nil_left, combine_nil_right]
  · rw [combine_eq_append (combine first middle), gap_combine_left h, combine_eq_append first,
      combine_eq_append first (combine middle last), gap_combine_right first h,
      combine_eq_append middle]
    simp only [List.append_assoc]

/-! ### Lines between line feeds -/

/-- The lines of a text between its line feeds. -/
def linesOf (text : List Char) : List (List Char) :=
  let pieces := Text.splitLines text
  if pieces.getLast? = some [] then pieces.dropLast else pieces

/-- The lines up to a line feed are complete, whatever follows. -/
theorem linesOf_append (front rest : List Char) :
    linesOf (front ++ '\n' :: rest) = Text.splitLines front ++ linesOf rest := by
  have hne := Text.splitLines_ne_nil rest
  rw [linesOf, linesOf, Text.splitLines_append, List.getLast?_append_of_ne_nil _ hne,
    List.dropLast_append_of_ne_nil hne, ← apply_ite (Text.splitLines front ++ ·)]

/-- The last piece of a text is empty only where it is the whole text or stands behind a line
feed. -/
theorem getLast?_splitLines_ne {text : List Char} (hne : text ≠ [])
    (hline : text.getLast? ≠ some '\n') : (Text.splitLines text).getLast? ≠ some [] := by
  induction text with
  | nil => contradiction
  | cons c text ih =>
    obtain ⟨piece, pieces, hpieces⟩ := List.exists_cons_of_ne_nil (Text.splitLines_ne_nil text)
    rw [hpieces] at ih
    rw [Text.splitLines_cons, hpieces]
    by_cases htext : text = []
    · -- the text is one character, and that is no line feed
      obtain rfl : [] = pieces := by
        simpa [htext, Text.splitLines_nil] using congrArg List.tail hpieces
      have hc : c ≠ '\n' := by simpa [htext] using hline
      rw [Text.splitStep_of_ne hc]
      simp
    · have hlast : (piece :: pieces).getLast? ≠ some [] :=
        ih htext (by rwa [List.getLast?_cons_of_ne_nil htext] at hline)
      rw [Text.splitStep]
      split
      · rwa [List.getLast?_cons_of_ne_nil (List.cons_ne_nil _ _)]
      · cases pieces with
        | nil => simp
        | cons next pieces => simpa using hlast

theorem linesOf_of_open {text : List Char} (hne : text ≠ []) (hline : text.getLast? ≠ some '\n') :
    linesOf text = Text.splitLines text := if_neg (getLast?_splitLines_ne hne hline)

/-- The lines of the whole are those of the output and then those of the errors. -/
theorem linesOf_combine (output errors : List Char) :
    linesOf (combine output errors) = linesOf output ++ linesOf errors := by
  by_cases herrors : errors = []
  · rw [herrors, combine_nil_right]
    exact (List.append_nil _).symm
  by_cases houtput : output = []
  · rw [houtput, combine_nil_left]
    rfl
  rw [combine_eq_append]
  by_cases hline : output.getLast? = some '\n'
  · -- the output closes its last line itself
    obtain ⟨front, rfl⟩ := List.getLast?_eq_some_iff.mp hline
    rw [gap, if_pos (.inr (.inr hline)), List.nil_append, List.append_assoc, List.singleton_append,
      linesOf_append, linesOf_append]
    simp [linesOf, Text.splitLines_nil]
  · rw [gap, if_neg (by simp [houtput, herrors, hline]), List.singleton_append, linesOf_append,
      linesOf_of_open houtput hline]

/-- Texts are put together with an empty text on either side changing nothing, and in any order; the
whole begins with the output and ends with the errors, with at most a line feed in between; and its
lines are the lines of both. -/
theorem combine_keeps (output errors : List Char) :
    combine output [] = output ∧ combine [] errors = errors ∧
    (∀ more, combine (combine output errors) more = combine output (combine errors more)) ∧
    (∃ between, (between = [] ∨ between = ['\n']) ∧
      combine output errors = output ++ between ++ errors) ∧
    linesOf (combine output errors) = linesOf output ++ linesOf errors := by
  refine ⟨combine_nil_right output, combine_nil_left errors, combine_assoc output errors,
    ⟨gap output errors, ?_, ?_⟩, linesOf_combine output errors⟩
  · rw [gap]
    split
    · exact .inl rfl
    · exact .inr rfl
  · rw [combine_eq_append, List.append_assoc]

example : combine "a\n\nb".toList "c\n".toList = "a\n\nb\nc\n".toList := by decide

end Captured

end Timekeeper
