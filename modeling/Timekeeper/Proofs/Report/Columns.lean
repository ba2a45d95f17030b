import Timekeeper.Proofs.Report.Rows
import Timekeeper.Proofs.Score.Coverage
import Timekeeper.Proofs.Text.Blank

/-!
# The matrix as it is read

The matrix is read back from its text by columns alone: a line is filled up with blanks, cut at two
places, and what lies between them loses the white space at its end (`Report.field`). Widths are
counted in characters. The white space at the end of a line was cut off before, but a field cannot
tell, as what it would have had more is white space again (`field_trimEnd`).

The cell of a language begins behind the label and the cells in front of it, all of which have their
full width if none is too wide (`field_matrixRow`). So the text of a matrix gives back the names of
the languages and all printed durations (`matrix_reads_back`).
-/

namespace Timekeeper

namespace Report

variable {g : Grammar} {scores : List Score}

/-! ### Fields -/

/-- What stands in a line between two places, without the white space at its end. The line is filled
up with blanks first. -/
def field (start stop : Nat) (line : Line) : List Char :=
  Text.trimEnd (((Text.padRight stop line).drop start).take (stop - start))

/-- White space behind a text adds nothing but white space to what is cut out of it. -/
private theorem trimEnd_take_drop {blanks : List Char}
    (h : ∀ c ∈ blanks, Text.isBlank c = true) (line : Line) (start size : Nat) :
    Text.trimEnd (((line ++ blanks).drop start).take size) =
      Text.trimEnd ((line.drop start).take size) := by
  rw [List.drop_append, List.take_append]
  exact Text.trimEnd_append fun c hc => h c (List.mem_of_mem_drop (List.mem_of_mem_take hc))

theorem field_eq (start stop : Nat) (line : Line) :
    field start stop line = Text.trimEnd ((line.drop start).take (stop - start)) :=
  trimEnd_take_drop (fun _ hc => Text.isBlank_of_mem_replicate hc) line start (stop - start)

/-- A field is the same in the trimmed line. -/
theorem field_trimEnd (start stop : Nat) (line : Line) :
    field start stop (Text.trimEnd line) = field start stop line := by
  obtain ⟨blanks, hline, hblanks⟩ := Text.exists_append_trimEnd line
  rw [field_eq, field_eq, ← trimEnd_take_drop hblanks, ← hline]

/-- A field holds the text that was padded to its width. -/
theorem field_append {front text : List Char} {start width : Nat} (hstart : front.length = start)
    (hwidth : text.length ≤ width) (behind : List Char) :
    field start (start + width) (front ++ Text.padRight width text ++ behind) =
      Text.trimEnd text := by
  have hlength : (Text.padRight width text).length = width := by
    rw [Text.length_padRight, max_eq_left hwidth]
  rw [field_eq, List.append_assoc, List.drop_left' hstart, Nat.add_sub_cancel_left,
    List.take_left' hlength, Text.trimEnd_padRight]

/-! ### Rows -/

/-- The cells of a row, each behind a space. -/
private def cellPart (cells : List (List Char)) : List Char :=
  cells.flatMap fun cell => ' ' :: Text.padRight cellWidth cell

private theorem length_cellPart {cells : List (List Char)}
    (h : ∀ cell ∈ cells, cell.length ≤ cellWidth) :
    (cellPart cells).length = 15 * cells.length := by
  induction cells with
  | nil => rfl
  | cons cell cells ih =>
    obtain ⟨hcell, hcells⟩ := List.forall_mem_cons.mp h
    have hpart : cellPart (cell :: cells) =
        ' ' :: Text.padRight cellWidth cell ++ cellPart cells := rfl
    rw [hpart, List.length_append, List.length_cons, Text.length_padRight, max_eq_left hcell,
      ih hcells, List.length_cons, cellWidth]
    omega

private theorem cellPart_eq {cells : List (List Char)} {j : Nat} (hj : j < cells.length) :
    cellPart cells = cellPart (cells.take j) ++
      (' ' :: Text.padRight cellWidth cells[j] ++ cellPart (cells.drop (j + 1))) := by
  have hsplit : cells = cells.take j ++ cells[j] :: cells.drop (j + 1) := by
    rw [List.cons_getElem_drop_succ, List.take_append_drop]
  conv_lhs => rw [hsplit, cellPart, List.flatMap_append, List.flatMap_cons]
  rfl

/-- Every cell of a row is read in its own field. -/
theorem field_matrixRow {label cell : List Char} {cells : List (List Char)} {j : Nat}
    (hlabel : label.length ≤ 20) (hcells : ∀ cell ∈ cells, cell.length ≤ 14)
    (hcell : cells[j]? = some cell) :
    field (23 + 15 * j) (37 + 15 * j) (matrixRow label cells) = Text.trimEnd cell := by
  obtain ⟨hj, rfl⟩ := List.getElem?_eq_some_iff.mp hcell
  -- what stands in front of the cell: two blanks, the label, the cells before it and a space
  let front := [' ', ' '] ++ Text.padRight labelWidth label ++ cellPart (cells.take j) ++ [' ']
  have hbefore : (cellPart (cells.take j)).length = 15 * j := by
    rw [length_cellPart fun cell hmem => hcells cell (List.mem_of_mem_take hmem),
      List.length_take_of_le hj.le]
  have hfront : front.length = 23 + 15 * j := by
    simp only [front, List.length_append, List.length_cons, List.length_nil, Text.length_padRight,
      hbefore, labelWidth]
    omega
  have hrow : matrixRow label cells = Text.trimEnd
      (front ++ Text.padRight cellWidth cells[j] ++ cellPart (cells.drop (j + 1))) := by
    rw [matrixRow, ← cellPart, cellPart_eq hj]
    simp only [front, List.append_assoc, List.cons_append, List.nil_append]
  have hstop : 37 + 15 * j = 23 + 15 * j + cellWidth := by
    rw [cellWidth]
    omega
  have hwidth : cells[j].length ≤ cellWidth := hcells _ (List.getElem_mem hj)
  rw [hrow, field_trimEnd, hstop, field_append hfront hwidth]

/-- No white space stands at the end of a printed duration. -/
theorem trimEnd_duration (x : Option Binary64) : Text.trimEnd (duration x) = duration x := by
  cases x with
  | none => decide
  | some x => exact Text.trimEnd_eq_self (getLast?_duration_some x) (by decide)

theorem lineFeed_not_mem_matrixRow {label : List Char} {cells : List (List Char)}
    (hlabel : '\n' ∉ label) (hcells : ∀ cell ∈ cells, '\n' ∉ cell) :
    '\n' ∉ matrixRow label cells := by
  have hpart : '\n' ∉ cellPart cells := by
    intro hmem
    obtain ⟨cell, hcell, hmem⟩ := List.mem_flatMap.mp hmem
    obtain hspace | hmem := List.mem_cons.mp hmem
    · exact absurd hspace (by decide)
    · exact lineFeed_not_mem_padRight (hcells cell hcell) _ hmem
  have hfront : '\n' ∉ [' ', ' '] ++ Text.padRight labelWidth label :=
    List.not_mem_append (by decide) (lineFeed_not_mem_padRight hlabel _)
  exact fun hmem => List.not_mem_append hfront hpart (Text.mem_of_mem_trimEnd hmem)

/-! ### The text -/

/-- The lines of a matrix **read back** as what it was made from. -/
structure ReadsBack (g : Grammar) (scores : List Score) (lines : List Line) : Prop where
  /-- Two lines of headings, and one for every test. -/
  length_lines : lines.length = g.tests.length + 2
  trimmed : ∀ line ∈ lines, ∀ c, line.getLast? = some c → Text.isBlank c = false
  rule : lines[1]? = some ("  ".toList ++ List.replicate (20 + 15 * scores.length) '-')
  header : ∀ j s, scores[j]? = some s →
    lines[0]?.map (field (23 + 15 * j) (37 + 15 * j)) = some (Text.trimEnd s.language.toList)
  row : ∀ i t j s, g.tests[i]? = some t → scores[j]? = some s →
    lines[i + 2]?.map (field (23 + 15 * j) (37 + 15 * j)) = some (duration (s.measurement? t.id))

theorem linesOf_matrix (hlabels : ∀ t ∈ g.tests, '\n' ∉ t.label.toList)
    (hnames : ∀ s ∈ scores, '\n' ∉ s.language.toList) :
    linesOf (closed (matrix g scores)) = matrix g scores := by
  rw [linesOf_closed]
  refine flatMap_splitLines ?_
  have hcell (t : Test) (s : Score) : '\n' ∉ cell t s := lineFeed_not_mem_duration _
  rw [matrix, List.forall_mem_cons, List.forall_mem_cons, List.forall_mem_map]
  refine ⟨?_, ?_, fun t ht => ?_⟩
  · exact lineFeed_not_mem_matrixRow (by decide) (List.forall_mem_map.mpr hnames)
  · refine List.not_mem_append (by decide) fun hmem => ?_
    exact absurd (List.eq_of_mem_replicate hmem) (by decide)
  · exact lineFeed_not_mem_matrixRow (hlabels t ht) (List.forall_mem_map.mpr fun s _ => hcell t s)

/-- The text of a matrix gives back the names of the languages and all printed durations if labels,
names and durations are no wider than their columns and have no line feed. -/
theorem matrix_reads_back (g : Grammar) (scores : List Score)
    (hlabels : ∀ t ∈ g.tests, t.label.toList.length ≤ 20 ∧ '\n' ∉ t.label.toList)
    (hnames : ∀ s ∈ scores, s.language.toList.length ≤ 14 ∧ '\n' ∉ s.language.toList)
    (hcells : ∀ t ∈ g.tests, ∀ s ∈ scores, (duration (s.measurement? t.id)).length ≤ 14) :
    ReadsBack g scores (linesOf (closed (matrix g scores))) := by
  rw [linesOf_matrix (fun t ht => (hlabels t ht).2) fun s hs => (hnames s hs).2]
  constructor
  · exact length_matrix g scores
  · rw [matrix, List.forall_mem_cons, List.forall_mem_cons, List.forall_mem_map]
    refine ⟨fun c => Text.not_isBlank_getLast_trimEnd, fun c hlast => ?_,
      fun t _ c => Text.not_isBlank_getLast_trimEnd⟩
    have hdash : c = '-' := by
      rw [List.getLast?_append_of_ne_nil _ (by simp [Report.rule, labelWidth])] at hlast
      exact List.eq_of_mem_replicate (List.mem_of_getLast? hlast)
    rw [hdash]
    decide
  · rfl
  · intro j s hs
    have hheader : (scores.map (·.language.toList))[j]? = some s.language.toList := by
      rw [List.getElem?_map, hs, Option.map_some]
    have hwidths : ∀ name ∈ scores.map (·.language.toList), name.length ≤ 14 :=
      List.forall_mem_map.mpr fun s hs => (hnames s hs).1
    exact congrArg some (field_matrixRow (by decide) hwidths hheader)
  · intro i t j s ht hs
    have hcell : (scores.map (cell t))[j]? = some (cell t s) := by
      rw [List.getElem?_map, hs, Option.map_some]
    have htest := List.mem_of_getElem? ht
    have hwidths : ∀ text ∈ scores.map (cell t), text.length ≤ 14 :=
      List.forall_mem_map.mpr (hcells t htest)
    have hrow : (matrix g scores)[i + 2]? =
        some (matrixRow t.label.toList (scores.map (cell t))) := by
      rw [matrix, List.getElem?_cons_succ, List.getElem?_cons_succ, List.getElem?_map, ht,
        Option.map_some]
    rw [hrow, Option.map_some, field_matrixRow (hlabels t htest).1 hwidths hcell, cell,
      trimEnd_duration]

/-- Here a label, a name and a duration fill their columns, a name ends in a tab, and a program
failed. -/
theorem matrix_reads_back_full :
    let g : Grammar := ⟨[⟨"a", "Binary tree building", "", .empty⟩, ⟨"b", "Sort", "", .empty⟩],
      "", .empty⟩
    let scores : List Score := [
      ⟨"C\t", .measured [("a", .zero), ("b", .one / .ofNat 8)] none⟩,
      ⟨"Rust", .failed "timed out"⟩,
      ⟨"Java-Streaming", .measured [("a", .ofNat 12345678901)] none⟩]
    (∀ t ∈ g.tests, t.label.toList.length ≤ 20 ∧ '\n' ∉ t.label.toList) ∧
    (∀ s ∈ scores, s.language.toList.length ≤ 14 ∧ '\n' ∉ s.language.toList) ∧
    (∀ t ∈ g.tests, ∀ s ∈ scores, (duration (s.measurement? t.id)).length ≤ 14) ∧
    ReadsBack g scores (linesOf (closed (matrix g scores))) ∧
    (matrix g scores)[2]? = some
      "  Binary tree building ~0 µs          N/A            12345678.901 s".toList := by
  intro g scores
  have hlabels : ∀ t ∈ g.tests, t.label.toList.length ≤ 20 ∧ '\n' ∉ t.label.toList := by decide
  have hnames : ∀ s ∈ scores, s.language.toList.length ≤ 14 ∧ '\n' ∉ s.language.toList := by
    decide
  have hcells : ∀ t ∈ g.tests, ∀ s ∈ scores, (duration (s.measurement? t.id)).length ≤ 14 := by
    decide +kernel
  refine ⟨hlabels, hnames, hcells, matrix_reads_back g scores hlabels hnames hcells, ?_⟩
  decide +kernel

end Report

end Timekeeper
