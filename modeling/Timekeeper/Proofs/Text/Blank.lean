import Timekeeper.Text.Blank
import Timekeeper.Text.Padding

/-!
# White space at the end of a text

What is cut off the end of a text is all its white space and nothing else, so more of it at the end
changes nothing (`Text.trimEnd_append`), and neither does the padding of a field.
-/

namespace Timekeeper

namespace Text

/-- Only white space is cut off the end of a text. -/
theorem exists_append_trimEnd (text : List Char) :
    ∃ blanks, text = trimEnd text ++ blanks ∧ ∀ c ∈ blanks, isBlank c = true := by
  refine ⟨(text.reverse.takeWhile isBlank).reverse, ?_, ?_⟩
  · have hreverse := congrArg List.reverse
      (List.takeWhile_append_dropWhile (p := isBlank) (l := text.reverse))
    rw [List.reverse_append, List.reverse_reverse] at hreverse
    exact hreverse.symm
  · intro c hc
    exact List.all_eq_true.mp (List.all_takeWhile) c (List.mem_reverse.mp hc)

theorem mem_of_mem_trimEnd {text : List Char} {c : Char} (h : c ∈ trimEnd text) : c ∈ text := by
  obtain ⟨blanks, htext, -⟩ := exists_append_trimEnd text
  exact htext ▸ List.mem_append_left blanks h

theorem trimEnd_append {text blanks : List Char} (h : ∀ c ∈ blanks, isBlank c = true) :
    trimEnd (text ++ blanks) = trimEnd text := by
  have hblanks : ∀ c ∈ blanks.reverse, isBlank c = true := fun c hc => h c (List.mem_reverse.mp hc)
  rw [trimEnd, List.reverse_append, List.dropWhile_append_of_pos hblanks, ← trimEnd]

/-- A text that ends in no white space is trimmed already. -/
theorem trimEnd_eq_self {text : List Char} {c : Char} (hlast : text.getLast? = some c)
    (hc : isBlank c = false) : trimEnd text = text := by
  obtain ⟨front, rfl⟩ := List.getLast?_eq_some_iff.mp hlast
  rw [trimEnd, List.reverse_concat, List.dropWhile_cons_of_neg (by simp [hc]), List.reverse_cons,
    List.reverse_reverse]

theorem isBlank_of_mem_replicate {n : Nat} {c : Char} (h : c ∈ List.replicate n ' ') :
    isBlank c = true := by
  rw [List.eq_of_mem_replicate h]
  decide

theorem trimEnd_padRight (width : Nat) (text : List Char) :
    trimEnd (padRight width text) = trimEnd text :=
  trimEnd_append fun _ hc => isBlank_of_mem_replicate hc

end Text

end Timekeeper
