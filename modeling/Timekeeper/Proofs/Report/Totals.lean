import Timekeeper.Proofs.Ranking.Ratios
import Timekeeper.Proofs.Report.Quantity
import Timekeeper.Report.Document

/-!
# Printed totals never decrease

The total of a language is the last thing in its line of the file, and in its row of the table
only the comparison comes behind it. A comparison begins with a mark that stands nowhere else in
it, so the table is read by cutting every row at its last mark; what is left ends in the two words
of a duration, whatever the name of the language is. The totals that are read so are those that are
printed for the placings, in their order, and they never decrease.
-/

namespace Timekeeper

open Binary64

/-! ### Reading lines -/

namespace Report

/-- How many milliseconds the printed duration is read back as. -/
def shown? (x : Binary64) : Option ℚ :=
  (Quantity.read? (duration (some x))).map Quantity.milliseconds

/-- The last two words of a text. -/
def lastWords (text : List Char) : List Char :=
  let backwards := text.reverse.dropWhile (· = ' ')
  let last := backwards.takeWhile (· ≠ ' ')
  let before := ((backwards.dropWhile (· ≠ ' ')).drop 1).takeWhile (· ≠ ' ')
  before.reverse ++ ' ' :: last.reverse

/-- The signs with which a comparison begins. -/
def isComparisonMark (c : Char) : Bool := c = '🏆' ∨ c = '📉'

/-- What stands in a row in front of its last comparison. -/
def beforeComparison (row : Line) : Line :=
  ((row.reverse.dropWhile fun c => !isComparisonMark c).drop 1).reverse

/-- The duration at the end of a line in milliseconds. -/
def printedTotal? (line : Line) : Option ℚ :=
  (Quantity.read? (lastWords line)).map Quantity.milliseconds

/-- The totals down the table: they stand in front of the comparisons, below two lines of
headings. -/
def podiumTotals (lines : List Line) : List (Option ℚ) :=
  (lines.drop 2).map fun row => printedTotal? (beforeComparison row)

/-- The totals down the file, which has eleven lines above and two below them. -/
def fileTotals (lines : List Line) : List (Option ℚ) :=
  ((lines.drop 11).dropLast.dropLast).map printedTotal?

theorem lastWords_append {front number unit : List Char} (hnumber : ' ' ∉ number)
    (hunit : ' ' ∉ unit) (hne : unit ≠ []) (blanks : Nat) :
    lastWords (front ++ ' ' :: (number ++ ' ' :: unit) ++ List.replicate blanks ' ') =
      number ++ ' ' :: unit := by
  -- read backwards: the blanks, the unit, the number, and whatever stands in front
  have hreverse : (front ++ ' ' :: (number ++ ' ' :: unit) ++ List.replicate blanks ' ').reverse =
      List.replicate blanks ' ' ++
        (unit.reverse ++ ' ' :: (number.reverse ++ ' ' :: front.reverse)) := by
    simp
  have hblanks : ∀ c ∈ List.replicate blanks ' ', decide (c = ' ') = true :=
    fun c hc => decide_eq_true (List.eq_of_mem_replicate hc)
  obtain ⟨c, rest, hc⟩ := List.exists_cons_of_ne_nil (List.reverse_ne_nil_iff.mpr hne)
  have hbackwards : (unit.reverse ++ ' ' :: (number.reverse ++ ' ' :: front.reverse)).dropWhile
      (· = ' ') = unit.reverse ++ ' ' :: (number.reverse ++ ' ' :: front.reverse) := by
    have hlast : c ≠ ' ' := by
      rintro rfl
      exact hunit (List.mem_reverse.mp (hc ▸ List.mem_cons_self))
    rw [hc, List.cons_append, List.dropWhile_cons_of_neg (by simpa using hlast)]
  obtain ⟨hlast, hrest⟩ :=
    Quantity.takeWhile_word (mt List.mem_reverse.mp hunit) (number.reverse ++ ' ' :: front.reverse)
  obtain ⟨hbefore, -⟩ :=
    Quantity.takeWhile_word (mt List.mem_reverse.mp hnumber) front.reverse
  rw [lastWords, hreverse, List.dropWhile_append_of_pos hblanks, hbackwards, hlast, hrest,
    List.drop_one, List.tail_cons, hbefore, List.reverse_reverse, List.reverse_reverse]

/-- A comparison is a mark and characters that are none. -/
private theorem exists_slowdown (p : Placing) : ∃ mark rest, slowdown p = mark :: rest ∧
    isComparisonMark mark = true ∧ rest.all (fun c => !isComparisonMark c) = true := by
  have hfastest : ∃ mark rest, fastestMark = mark :: rest ∧
      isComparisonMark mark = true ∧ rest.all (fun c => !isComparisonMark c) = true :=
    ⟨'🏆', " FASTEST".toList, rfl, by decide, by decide⟩
  have hdigit {c : Char} (h : c.isDigit = true) : isComparisonMark c = false := by
    refine decide_eq_false ?_
    rintro (rfl | rfl)
    · exact absurd h (by decide)
    · exact absurd h (by decide)
  -- a ratio can be any number, also an infinite one
  have hmarks : Binary64.marks.all (fun c => !isComparisonMark c) = true := by decide
  have hwords : "x slower".toList.all (fun c => !isComparisonMark c) = true := by decide
  rw [slowdown]
  split
  · rename_i ratio hratio
    split
    · exact hfastest
    · have hratio : (ratio.fixed 2).all (fun c => !isComparisonMark c) = true := by
        refine List.all_eq_true.mpr fun c hc => ?_
        obtain hc | hc := mem_fixed hc
        · rw [hdigit hc]
          rfl
        · exact List.all_eq_true.mp hmarks c hc
      refine ⟨'📉', ' ' :: (ratio.fixed 2 ++ "x slower".toList), rfl, by decide, ?_⟩
      rw [List.all_cons, List.all_append, hratio, hwords]
      decide
  · exact hfastest

theorem beforeComparison_append_slowdown (front : Line) (p : Placing) :
    beforeComparison (front ++ slowdown p) = front := by
  obtain ⟨mark, rest, hslowdown, hmark, hrest⟩ := exists_slowdown p
  have hskip : ∀ c ∈ rest.reverse, (!isComparisonMark c) = true :=
    fun c hc => List.all_eq_true.mp hrest c (List.mem_reverse.mp hc)
  rw [beforeComparison, hslowdown, List.reverse_append, List.reverse_cons, List.append_assoc,
    List.dropWhile_append_of_pos hskip, List.singleton_append,
    List.dropWhile_cons_of_neg (by simp [hmark]), List.drop_one, List.tail_cons,
    List.reverse_reverse]

/-- A printed duration is two words. -/
theorem exists_words (x : Binary64) : ∃ number unit,
    duration (some x) = number ++ ' ' :: unit ∧ ' ' ∉ number ∧ ' ' ∉ unit ∧ unit ≠ [] := by
  have hfixed (y : Binary64) (places : Nat) : ' ' ∉ y.fixed places := by
    intro h
    obtain hdigit | hmark := mem_fixed h
    · exact absurd hdigit (by decide)
    · exact absurd hmark (by decide)
  rw [duration]
  split
  · exact ⟨"~0".toList, "µs".toList, rfl, by decide, by decide, by decide⟩
  split
  · exact ⟨_, "µs".toList, rfl, hfixed _ 2, by decide, by decide⟩
  split
  · exact ⟨_, "ms".toList, rfl, hfixed _ 3, by decide, by decide⟩
  · exact ⟨_, "s".toList, rfl, hfixed _ 3, by decide, by decide⟩

/-- The last words of a text are the duration at its end, whatever stands in front. -/
theorem lastWords_append_duration (front : Line) (x : Binary64) (blanks : Nat) :
    lastWords (front ++ ' ' :: duration (some x) ++ List.replicate blanks ' ') =
      duration (some x) := by
  obtain ⟨number, unit, hwords, hnumber, hunit, hne⟩ := exists_words x
  rw [hwords, lastWords_append hnumber hunit hne]

/-- A row is what stands in front of the total, the total with its padding, and a comparison. -/
theorem podiumRow_eq (p : Placing) : podiumRow p =
    [' ', ' '] ++ medal p.position ++ [' '] ++ Text.padRight 3 (numeral p.position) ++ [' '] ++
      Text.padRight 15 p.language.toList ++ ' ' :: duration (some p.total) ++
      List.replicate (18 - (duration (some p.total)).length + 1) ' ' ++ slowdown p := by
  have hpadded : Text.padRight 18 (duration (some p.total)) = duration (some p.total) ++
      List.replicate (18 - (duration (some p.total)).length) ' ' := rfl
  rw [podiumRow, hpadded, List.replicate_succ']
  simp

theorem printedTotal?_podiumRow (p : Placing) :
    printedTotal? (beforeComparison (podiumRow p)) = shown? p.total := by
  rw [podiumRow_eq, beforeComparison_append_slowdown, printedTotal?, lastWords_append_duration,
    shown?]

theorem printedTotal?_numberedLine (p : Placing) :
    printedTotal? (numberedLine p) = shown? p.total := by
  have hline : numberedLine p = numeral p.position ++ ". ".toList ++ p.language.toList ++ [':'] ++
      ' ' :: duration (some p.total) ++ List.replicate 0 ' ' := by
    simp [numberedLine]
  rw [hline, printedTotal?, lastWords_append_duration, shown?]

end Report

/-! ### Ranked totals -/

namespace Report

/-- The totals that are printed for placings in order do not decrease. -/
private theorem exists_totals {placings : List Placing} (h : ∀ p ∈ placings, IsDuration p.total)
    (hle : placings.Pairwise fun p q => p.total.le q.total = true) :
    ∃ totals : List ℚ, totals.Pairwise (· ≤ ·) ∧
      (placings.map fun p => shown? p.total) = totals.map some := by
  let total (p : Placing) : ℚ := (shown? p.total).getD 0
  refine ⟨placings.map total, ?_, ?_⟩
  · refine List.pairwise_map.mpr (hle.imp_of_mem fun {p q} hp hq hpq => ?_)
    obtain ⟨a, hread, ha⟩ := Quantity.exists_prints (h p hp)
    obtain ⟨b, hread', hb⟩ := Quantity.exists_prints (h q hq)
    have hvalue := ((h p hp).le_iff (h q hq)).mp hpq
    simpa [total, shown?, hread, hread'] using ha.le_of_le hb hvalue
  · rw [List.map_map]
    refine List.map_congr_left fun p hp => ?_
    obtain ⟨a, hread, -⟩ := Quantity.exists_prints (h p hp)
    simp [total, shown?, hread]

theorem podiumTotals_podium (r : Ranking) :
    podiumTotals (podium r) = r.placings.map fun p => shown? p.total := by
  rw [podium]
  split
  · rename_i hempty
    rw [Ranking.isEmpty, List.isEmpty_iff] at hempty
    rw [hempty]
    rfl
  · rw [podiumTotals, List.drop_succ_cons, List.drop_succ_cons, List.drop_zero, List.map_map]
    refine List.map_congr_left fun p _ => ?_
    rw [Function.comp_apply, printedTotal?_podiumRow]

theorem fileTotals_fileLines (r : Report) :
    fileTotals r.fileLines = r.ranking.placings.map fun p => shown? p.total := by
  have hlines : fileTotals r.fileLines =
      (r.ranking.placings.map numberedLine).map printedTotal? := by
    have hdrop : r.fileLines.drop 11 =
        r.ranking.placings.map numberedLine ++ [[]] ++ [rule width '='] := by
      simp [fileLines, occasionLines]
    rw [fileTotals, hdrop, List.dropLast_concat, List.dropLast_concat]
  rw [hlines, List.map_map]
  refine List.map_congr_left fun p _ => ?_
  rw [Function.comp_apply, printedTotal?_numberedLine]

/-- Printed durations are read back as quantities that are in the order of the values and accurate.
So where the ranked totals are finite, the totals down the table and down the file never
decrease. -/
theorem duration_ordered_accurate :
    (∀ x y, IsDuration x → IsDuration y → x.le y = true →
      ∃ p q, Quantity.read? (duration (some x)) = some p ∧
        Quantity.read? (duration (some y)) = some q ∧ p.milliseconds ≤ q.milliseconds) ∧
    (∀ x, IsDuration x →
      ∃ q, Quantity.read? (duration (some x)) = some q ∧ q.IsAccurate x.value) ∧
    ∀ r : Report, r.ranking = .ofScores r.scores →
      (∀ s ∈ r.scores, s.isRanked = true → ∀ t, s.total? = some t → t.isFinite = true) →
      ∃ totals : List ℚ, totals.Pairwise (· ≤ ·) ∧
        totals.length = r.ranking.placings.length ∧
        podiumTotals (podium r.ranking) = totals.map some ∧
        fileTotals r.fileLines = totals.map some := by
  refine ⟨fun x y hx hy hxy => ?_, fun x hx => ?_, fun r hr hfinite => ?_⟩
  · obtain ⟨p, hreadp, hp⟩ := Quantity.exists_prints hx
    obtain ⟨q, hreadq, hq⟩ := Quantity.exists_prints hy
    exact ⟨p, q, hreadp, hreadq, hp.le_of_le hq ((hx.le_iff hy).mp hxy)⟩
  · obtain ⟨q, hread, hq⟩ := Quantity.exists_prints hx
    exact ⟨q, hread, hq.isAccurate⟩
  · obtain ⟨hduration, hle⟩ := Ranking.isDuration_placings hfinite
    rw [← hr] at hduration hle
    obtain ⟨totals, hpairwise, htotals⟩ := exists_totals hduration hle
    have hlength := congrArg List.length htotals
    rw [List.length_map, List.length_map] at hlength
    exact ⟨totals, hpairwise, hlength.symm, (podiumTotals_podium _).trans htotals,
      (fileTotals_fileLines _).trans htotals⟩

/-- Just below one millisecond, rounding carries the microseconds up to the seam. -/
theorem duration_ordered_accurate_at_seam :
    let below := Decimal.nearest ⟨false, 9999996, -7⟩
    let scores : List Score := [⟨"Go", .measured [] (some .one)⟩, ⟨"C", .measured [] (some below)⟩]
    let report : Report := ⟨⟨[], "", .empty⟩, scores, .ofScores scores,
      ⟨⟨0, 0⟩, ⟨1, 0⟩, "linux"⟩, "C", "Go"⟩
    duration (some below) = "1000.00 µs".toList ∧ duration (some .one) = "1.000 ms".toList ∧
      (∃ p q, Quantity.read? (duration (some below)) = some p ∧
        Quantity.read? (duration (some .one)) = some q ∧ p.milliseconds ≤ q.milliseconds) ∧
      (∃ q, Quantity.read? (duration (some below)) = some q ∧ q.IsAccurate below.value) ∧
      ∃ totals : List ℚ, totals.Pairwise (· ≤ ·) ∧
        totals.length = report.ranking.placings.length ∧
        podiumTotals (podium report.ranking) = totals.map some ∧
        fileTotals report.fileLines = totals.map some := by
  intro below scores report
  have hbelow : IsDuration below := ⟨by decide +kernel, by decide +kernel⟩
  have hone : IsDuration .one := ⟨by decide, by decide⟩
  have hfinite : ∀ s ∈ scores, s.isRanked = true → ∀ t, s.total? = some t → t.isFinite = true := by
    intro s hs _ t ht
    obtain rfl | rfl : s = _ ∨ s = _ := by simpa [scores] using hs
    · exact Option.some.inj ht ▸ hone.1
    · exact Option.some.inj ht ▸ hbelow.1
  refine ⟨by decide +kernel, by decide +kernel, ?_, ?_, ?_⟩
  · exact duration_ordered_accurate.1 below .one hbelow hone (by decide +kernel)
  · exact duration_ordered_accurate.2.1 below hbelow
  · exact duration_ordered_accurate.2.2 report rfl hfinite

end Report

end Timekeeper
