import Timekeeper.Captured
import Timekeeper.Proofs.Readout.Extraction

/-!
# Text that follows changes no reading

A duration that a text states is still stated when more text follows, if the following text
does not continue the last word: the text is **sealed**. What is printed as an error is put
behind the output so that the output is sealed.

Two facts about measurements carry this. One that is found stays where it is
(`at?_append_of_some`). One that is not found in front of a colon is not found with more text
either, because no measurement goes on past a colon (`at?_append_of_colon`). The phrases in
front of the standard measurements end in colons, so a marker that leads somewhere has a colon
behind every place that the scanner has given up before it.
-/

namespace Timekeeper

open Pattern

/-- A text is **sealed** in front of another if that does not continue its last word: the other
text begins with no word character, or the text ends with a line. -/
def Sealed (x y : List Char) : Prop :=
  wordSide true y.head? = false ∨ ∀ c, x.getLast? = some c → c = '\n'

theorem Sealed.of_suffix {x y z : List Char} (h : Sealed x y) (hz : z <:+ x) : Sealed z y := by
  refine h.imp_right fun hlast c hc => hlast c ?_
  obtain ⟨before, rfl⟩ := hz
  rw [List.getLast?_append, hc]
  rfl

/-- Errors are put behind the output so that it is sealed. -/
theorem Captured.exists_combine_eq (output errors : List Char) :
    ∃ x, Captured.combine output errors = output ++ x ∧ Sealed output x := by
  by_cases hnone : errors = []
  · subst hnone
    exact ⟨[], by simp [combine], .inl rfl⟩
  rw [combine, if_neg (by simpa using hnone)]
  by_cases hline : output.isEmpty ∨ output.getLast? = some '\n'
  · refine ⟨errors, if_pos hline, .inr fun c hc => ?_⟩
    obtain hempty | hlast := hline
    · rw [List.isEmpty_iff.mp hempty] at hc
      contradiction
    · rw [hlast] at hc
      exact (Option.some.inj hc).symm
  · exact ⟨'\n' :: errors, if_neg hline, .inl rfl⟩

/-! ### Measurements in front of more text -/

namespace Measurement

theorem wordSide_append {x : List Char} (hx : x ≠ []) (y : List Char) :
    wordSide true (x ++ y).head? = wordSide true x.head? := by
  obtain ⟨c, x, rfl⟩ := List.exists_cons_of_ne_nil hx
  rfl

/-- Whether a measurement stands in front of a colon does not depend on what follows. -/
theorem at?_append_of_colon {x : List Char} (h : ':' ∈ x) (y : List Char) :
    at? (x ++ y) = at? x := by
  refine Option.ext fun m => ⟨fun hm => ?_, fun hm => ?_⟩
  · -- the measurement ends in front of the colon, and so in the first text
    obtain ⟨hform, rest, hrest, hword⟩ := wellFormed_of_at? hm
    obtain ⟨behind, hchars, -⟩ | ⟨behind, rfl, rfl⟩ := List.append_eq_append_iff.mp hrest
    · exact absurd (hchars ▸ List.mem_append_left behind h) hform.colon_not_mem
    · have hne : behind ≠ [] := by
        rintro rfl
        exact hform.colon_not_mem (by simpa using h)
      rw [wordSide_append hne] at hword
      exact at?_append hform hword
  · obtain ⟨hform, behind, rfl, hword⟩ := wellFormed_of_at? hm
    have hne : behind ≠ [] := by
      rintro rfl
      exact hform.colon_not_mem (by simpa using h)
    rw [List.append_assoc]
    exact at?_append hform ((wordSide_append hne y).trans hword)

/-- A measurement that is found stays where it is. -/
theorem at?_append_of_some {x : List Char} {m : Measurement} (h : at? x = some m) {y : List Char}
    (hy : Sealed x y) : at? (x ++ y) = some m := by
  obtain ⟨hform, behind, rfl, hword⟩ := wellFormed_of_at? h
  rw [List.append_assoc]
  refine at?_append hform ?_
  by_cases hne : behind = []
  · subst hne
    obtain hy | hlast := hy
    · exact hy
    · -- the text ends with the unit, and so not with a line
      obtain ⟨c, hc, hmem⟩ := hform.exists_getLast?
      rw [List.append_nil] at hlast
      rw [hlast c hc] at hmem
      exact absurd hmem (by decide)
  · rw [wordSide_append hne]
    exact hword

end Measurement

/-! ### Markers in front of more text -/

namespace PlainMarker

/-- What stands in front of the measurement of a marker. -/
def lastPhrase : PlainMarker → Phrase
  | direct p => p
  | across _ q => q

/-- Where a phrase with a colon at its end occurs later, there is a colon behind as many
characters as the phrase has. -/
private theorem colon_mem_drop {p : Phrase} (hp : p.chars.getLast? = some ':') {c : Char}
    {x y : List Char} (hy : y <:+ x) (ho : occurs p.chars y = true) :
    ':' ∈ (c :: x).drop p.chars.length := by
  obtain ⟨n, hn⟩ : ∃ n, p.chars.length = n + 1 :=
    Nat.exists_eq_succ_of_ne_zero (by simpa using p.ne_nil)
  rw [List.getLast?_eq_getElem?, hn, Nat.add_sub_cancel] at hp
  obtain ⟨d, hd, hfold⟩ := getElem?_of_occurs ho hp
  obtain rfl : d = ':' := by
    obtain h | h := Unicode.eq_of_fold_eq (by decide) (by decide) (by decide) (hfold.trans rfl) <;>
      exact h
  obtain ⟨z, rfl⟩ := hy
  have hcolon : ((z ++ y).drop n)[z.length]? = some ':' := by
    rw [List.getElem?_drop, Nat.add_comm, List.getElem?_append_right (Nat.le_add_right _ _),
      Nat.add_sub_cancel_left, hd]
  rw [hn]
  exact List.mem_of_getElem? hcolon

private theorem occurs_nil_right (p : Phrase) : occurs p.chars [] = false := by
  rw [Bool.eq_false_iff]
  intro h
  exact p.ne_nil (List.eq_nil_of_length_eq_zero (Nat.le_zero.mp (length_le_of_occurs h)))

/-- The first tail with a phrase in front of a measurement stays the first one. -/
theorem findSome?_here_append {p : Phrase} (hp : p.chars.getLast? = some ':') {x y : List Char}
    {m : Measurement} (h : x.tails.findSome? (here p) = some m) (hy : Sealed x y) :
    (x ++ y).tails.findSome? (here p) = some m := by
  induction x with
  | nil => simp [here, occurs_nil_right p] at h
  | cons c x ih =>
    rw [List.cons_append, List.tails_cons, List.findSome?_cons, ← List.cons_append]
    rw [List.tails_cons, List.findSome?_cons] at h
    cases hhere : here p (c :: x) with
    | some m' =>
      rw [hhere] at h
      obtain rfl := Option.some.inj h
      obtain ⟨ho, hat⟩ := Option.ite_none_right_eq_some.mp hhere
      have hle := length_le_of_occurs ho
      have hat' := Measurement.at?_append_of_some hat (hy.of_suffix (List.drop_suffix _ _))
      rw [here, occurs_append hle, if_pos ho, List.drop_append_of_le_length hle, hat']
    | none =>
      rw [hhere] at h
      obtain ⟨z, hz, hfound⟩ := List.exists_of_findSome?_eq_some h
      have hsuffix := (List.mem_tails _ _).mp hz
      have hoz := (Option.ite_none_right_eq_some.mp hfound).1
      have hle : p.chars.length ≤ (c :: x).length :=
        (length_le_of_occurs hoz).trans (hsuffix.length_le.trans (Nat.le_succ _))
      -- a phrase found later has its colon behind this place, so more text makes no difference
      have hnone : here p (c :: x ++ y) = none := by
        rw [here, occurs_append hle, List.drop_append_of_le_length hle,
          Measurement.at?_append_of_colon (colon_mem_drop hp hsuffix hoz)]
        exact hhere
      rw [hnone]
      exact ih h (hy.of_suffix (List.suffix_cons c x))

/-- The first tail with a phrase stays the first one. -/
theorem find?_occurs_append {p : Phrase} {x y behind : List Char}
    (h : x.tails.find? (occurs p.chars) = some behind) :
    (x ++ y).tails.find? (occurs p.chars) = some (behind ++ y) := by
  induction x with
  | nil => simp [occurs_nil_right p] at h
  | cons c x ih =>
    rw [List.cons_append, List.tails_cons, List.find?_cons, ← List.cons_append]
    rw [List.tails_cons, List.find?_cons] at h
    by_cases ho : occurs p.chars (c :: x) = true
    · rw [ho] at h
      obtain rfl := Option.some.inj h
      rw [occurs_append (length_le_of_occurs ho), ho]
    · rw [Bool.not_eq_true] at ho
      rw [ho] at h
      have hsuffix := (List.mem_tails _ _).mp (List.mem_of_find?_eq_some h)
      have hbehind : occurs p.chars behind = true := List.find?_some h
      have hle : p.chars.length ≤ (c :: x).length :=
        (length_le_of_occurs hbehind).trans (hsuffix.length_le.trans (Nat.le_succ _))
      rw [occurs_append hle, ho]
      exact ih h

theorem find?_append {m : PlainMarker} (hm : m.lastPhrase.chars.getLast? = some ':')
    {x y : List Char} {found : Measurement} (h : m.find? x = some found) (hy : Sealed x y) :
    m.find? (x ++ y) = some found := by
  cases m with
  | direct p =>
    rw [find?_direct] at h ⊢
    exact findSome?_here_append hm h hy
  | across p q =>
    rw [find?_across] at h ⊢
    obtain ⟨behind, hbehind, hfound⟩ := Option.bind_eq_some_iff.mp h
    rw [find?_occurs_append hbehind, Option.bind_some]
    have ho : occurs p.chars behind = true := List.find?_some hbehind
    rw [List.drop_append_of_le_length (length_le_of_occurs ho)]
    refine findSome?_here_append hm hfound (hy.of_suffix ?_)
    exact (List.drop_suffix _ _).trans ((List.mem_tails _ _).mp (List.mem_of_find?_eq_some hbehind))

end PlainMarker

/-! ### Readouts of more text -/

theorem PlainMarker.duration?_append {m : PlainMarker}
    (hm : m.lastPhrase.chars.getLast? = some ':') {x y : List Char} {value : Binary64}
    (h : m.duration? x = some value) (hy : Sealed x y) : m.duration? (x ++ y) = some value := by
  obtain ⟨found, hfound, hvalue⟩ := Option.bind_eq_some_iff.mp h
  rw [duration?, m.find?_append hm hfound hy]
  exact hvalue

theorem PlainTable.getLast?_lastPhrase_standard :
    (∀ e ∈ standard.tests, e.marker.lastPhrase.chars.getLast? = some ':') ∧
      standard.total.lastPhrase.chars.getLast? = some ':' := by
  decide

/-- What a program printed as errors does not change what its output states: every test that
has a duration in the readout of the output has the same one in the readout of both, and a
total that the output states stays. -/
theorem Readout.ofText_combine : ∃ g, Grammar.standard = .ok g ∧ ∀ output errors : List Char,
    (∀ id value, (Readout.ofText g output).measurements.get? id = some value →
      (Readout.ofText g (Captured.combine output errors)).measurements.get? id = some value) ∧
    ∀ total, (Readout.ofText g output).total = some total →
      (Readout.ofText g (Captured.combine output errors)).total = some total := by
  refine ⟨PlainTable.standard.grammar, PlainTable.standard_eq, fun output errors => ?_⟩
  obtain ⟨x, hcombine, hsealed⟩ := Captured.exists_combine_eq output errors
  obtain ⟨hcolon, htotal⟩ := PlainTable.getLast?_lastPhrase_standard
  rw [PlainTable.ofText_grammar, PlainTable.ofText_grammar, hcombine]
  refine ⟨fun id value h => ?_, fun total h => PlainMarker.duration?_append htotal h hsealed⟩
  obtain ⟨e, he, rfl⟩ := PlainTable.exists_of_get?_scan h
  rw [PlainTable.get?_scan PlainTable.nodup_ids_standard he] at h ⊢
  exact PlainMarker.duration?_append (hcolon e he) h hsealed

/-- Here the errors would continue the unit at the end of the output if they were not put on a
line of their own, and they state another duration of the same test. -/
theorem Readout.ofText_combine_unit_at_end :
    let output := "Test 1: Sure: 2 ms".toList
    let errors := "pace Test 1: Sure: 3 ms".toList
    ∃ g, Grammar.standard = .ok g ∧
      (Readout.ofText g output).measurements.get? "fibonacci" = some (.ofNat 2) ∧
      (Readout.ofText g (Captured.combine output errors)).measurements.get? "fibonacci" =
        some (.ofNat 2) := by
  intro output errors
  obtain ⟨g, hg, h⟩ := ofText_combine
  have houtput : (Readout.ofText g output).measurements.get? "fibonacci" = some (.ofNat 2) := by
    obtain rfl := Except.ok.inj (PlainTable.standard_eq.symm.trans hg)
    rw [PlainTable.ofText_grammar]
    decide +kernel
  exact ⟨g, hg, houtput, (h output errors).1 _ _ houtput⟩

end Timekeeper
