import Timekeeper.Unicode.CaseFolding
import Timekeeper.Text.Blank
import Mathlib.Tactic.SplitIfs

/-!
# Folding and ASCII

What simple case folding does at the border of ASCII. The runs of folding lie beyond ASCII on
both sides, so an ASCII character folds to its lower case, and of all others only the Kelvin
sign and the long s fold into ASCII at all. Hence a class of ASCII characters that does not
tell their cases apart, and has neither `k` nor `s`, is the same class when case does not
count (`any_caseVariants`). White space has no case.
-/

namespace Timekeeper

namespace Unicode

/-! ### Characters by their numbers -/

theorem toNat_ofNat_of_isValidChar {n : Nat} (h : n.isValidChar) :
    (Char.ofNat n).toNat = n := by
  rw [Char.ofNat, dif_pos h]
  rfl

/-- What holds of the first 128 characters holds of all of ASCII. -/
theorem forall_ascii {P : Char → Prop} (h : ∀ n < 128, P (Char.ofNat n)) {c : Char}
    (hc : c.toNat < 128) : P c := by
  simpa only [Char.ofNat_toNat] using h c.toNat hc

/-! ### The runs of folding -/

/-- Both sides of every run lie beyond ASCII and apart from the surrogates. -/
private theorem foldRuns_beyond : ∀ run ∈ foldRuns,
    (128 ≤ run.first ∧ run.last < 0x110000 ∧ (run.last < 0xd800 ∨ 0xdfff < run.first)) ∧
      128 ≤ run.first + run.shift ∧ run.last + run.shift < 0x110000 ∧
      (run.last + run.shift < 0xd800 ∨ 0xdfff < run.first + run.shift) := by
  decide +kernel

private theorem image_beyond {run : CaseRun} (hrun : run ∈ foldRuns) {point : Nat}
    (h : run.holds point = true) : 128 ≤ run.image point ∧ (run.image point).isValidChar := by
  have hbeyond := (foldRuns_beyond run hrun).2
  simp only [CaseRun.holds, Bool.and_eq_true, decide_eq_true_eq] at h
  simp only [CaseRun.image, Nat.isValidChar]
  omega

private theorem source_beyond {run : CaseRun} (hrun : run ∈ foldRuns) {image point : Nat}
    (h : run.source? image = some point) : 128 ≤ point ∧ point.isValidChar := by
  have hbeyond := (foldRuns_beyond run hrun).1
  obtain ⟨hpoint, heq⟩ := Option.ite_none_right_eq_some.mp h
  obtain rfl := Option.some.inj heq
  simp only [CaseRun.holds, Bool.and_eq_true, decide_eq_true_eq] at hpoint
  simp only [Nat.isValidChar]
  omega

/-! ### Folds -/

theorem fold_of_ascii {c : Char} (h : c.toNat < 128) : fold c = c.toLower := if_pos h

theorem fold_kelvinSign : fold kelvinSign = 'k' := rfl

theorem fold_longS : fold longS = 's' := rfl

/-- Beyond ASCII only the Kelvin sign and the long s fold to ASCII. -/
theorem le_toNat_fold {c : Char} (h : 128 ≤ c.toNat) (hk : c ≠ kelvinSign) (hs : c ≠ longS) :
    128 ≤ (fold c).toNat := by
  rw [fold, if_neg (by omega), if_neg hk, if_neg hs, imageIn]
  cases hfind : foldRuns.find? (·.holds c.toNat) with
  | none => rwa [Char.ofNat_toNat]
  | some run =>
    have hholds : run.holds c.toNat = true := by simpa using List.find?_some hfind
    obtain ⟨himage, hvalid⟩ := image_beyond (List.mem_of_find?_eq_some hfind) hholds
    rwa [toNat_ofNat_of_isValidChar hvalid]

/-- What folds to a character of ASCII other than `k` and `s` is that character in one of its
two cases. -/
theorem toLower_of_fold_eq {c f : Char} (hf : f.toNat < 128) (hk : f ≠ 'k') (hs : f ≠ 's')
    (h : fold c = f) : c.toNat < 128 ∧ c.toLower = f := by
  by_cases hc : c.toNat < 128
  · exact ⟨hc, fold_of_ascii hc ▸ h⟩
  · have hkelvin : c ≠ kelvinSign := by
      rintro rfl
      exact hk h.symm
    have hlong : c ≠ longS := by
      rintro rfl
      exact hs h.symm
    have := le_toNat_fold (by omega) hkelvin hlong
    rw [h] at this
    omega

/-- What folds to a character of ASCII other than `k` and `s` is that character or its upper
case. -/
theorem eq_of_fold_eq {c f : Char} (hf : f.toNat < 128) (hk : f ≠ 'k') (hs : f ≠ 's')
    (h : fold c = f) : c = f ∨ c = f.toUpper := by
  obtain ⟨hc, rfl⟩ := toLower_of_fold_eq hf hk hs h
  exact forall_ascii (P := fun c => c = c.toLower ∨ c = c.toLower.toUpper) (by decide) hc

/-- What folds to `s` is one of three characters. -/
theorem eq_of_fold_eq_s {c : Char} (h : fold c = 's') : c = 's' ∨ c = 'S' ∨ c = longS := by
  by_cases hc : c.toNat < 128
  · rw [fold_of_ascii hc] at h
    exact forall_ascii (P := fun c => c.toLower = 's' → c = 's' ∨ c = 'S' ∨ c = longS)
      (by decide) hc h
  · by_cases hlong : c = longS
    · exact .inr (.inr hlong)
    · have hkelvin : c ≠ kelvinSign := by
        rintro rfl
        exact absurd h (by decide)
      have := le_toNat_fold (by omega) hkelvin hlong
      rw [h] at this
      exact absurd this (by decide)

/-! ### Case variants -/

/-- A test for characters of ASCII that does not tell their cases apart, and that neither `k`
nor `s` passes, is not changed by folding. -/
theorem any_caseVariants {test : Char → Bool} (hascii : ∀ d, test d = true → d.toNat < 128)
    (hcase : ∀ n < 128, test (Char.ofNat n).toLower = test (Char.ofNat n))
    (hupper : ∀ n < 128, test (Char.ofNat n).toUpper = test (Char.ofNat n))
    (hk : test 'k' = false) (hs : test 's' = false) (c : Char) :
    (caseVariants c).any test = test c := by
  have hbeyond {d : Char} (hd : 128 ≤ d.toNat) : test d = false :=
    Bool.eq_false_iff.mpr fun h => absurd (hascii d h) (by omega)
  have hkelvin : test kelvinSign = false := hbeyond (by decide)
  have hlong : test longS = false := hbeyond (by decide)
  have hvariants {f : Char} (hf : f.toNat < 128) : (unfold f).any test = test f := by
    have hup : test f.toUpper = test f :=
      forall_ascii (P := fun d => test d.toUpper = test d) hupper hf
    rw [unfold, if_pos hf]
    split_ifs <;> simp [hup, hkelvin, hlong]
  rw [caseVariants]
  by_cases hc : c.toNat < 128
  · have hlow : test c.toLower = test c :=
      forall_ascii (P := fun d => test d.toLower = test d) hcase hc
    have hlow' : c.toLower.toNat < 128 :=
      forall_ascii (P := fun d => d.toLower.toNat < 128) (by decide) hc
    rw [fold_of_ascii hc, hvariants hlow', hlow]
  · rw [hbeyond (by omega)]
    by_cases hk' : c = kelvinSign
    · rw [hk', fold_kelvinSign, hvariants (by decide), hk]
    by_cases hs' : c = longS
    · rw [hs', fold_longS, hvariants (by decide), hs]
    -- all other characters beyond ASCII have their variants there too
    have hfold := le_toNat_fold (by omega) hk' hs'
    rw [unfold, if_neg (by omega), List.any_cons, hbeyond hfold, Bool.false_or]
    rw [List.any_eq_false]
    intro d hd
    obtain ⟨run, hrun, hsource⟩ := List.mem_filterMap.mp hd
    obtain ⟨point, hpoint, rfl⟩ := Option.map_eq_some_iff.mp hsource
    obtain ⟨hpoint', hvalid⟩ := source_beyond hrun hpoint
    rw [hbeyond (by rwa [toNat_ofNat_of_isValidChar hvalid])]
    simp

end Unicode

/-! ### White space -/

namespace Text

/-- The numbers of the blank characters. -/
private def blankPoints : List Nat :=
  [9, 10, 11, 12, 13, 0x20, 0x85, 0xa0, 0x1680, 0x2000, 0x2001, 0x2002, 0x2003, 0x2004, 0x2005,
    0x2006, 0x2007, 0x2008, 0x2009, 0x200a, 0x2028, 0x2029, 0x202f, 0x205f, 0x3000]

private theorem mem_blankPoints {c : Char} (h : isBlank c = true) : c.toNat ∈ blankPoints := by
  simp only [isBlank, Bool.or_eq_true, Bool.and_eq_true, decide_eq_true_eq, beq_iff_eq] at h
  simp only [blankPoints, List.mem_cons, List.not_mem_nil, or_false]
  omega

private theorem foldRuns_not_blank : ∀ point ∈ blankPoints, ∀ run ∈ Unicode.foldRuns,
    run.holds point = false := by
  decide +kernel

private theorem blankPoints_lower : ∀ n ∈ blankPoints, n < 128 →
    (Char.ofNat n).toLower = Char.ofNat n := by
  decide

/-- White space has no case. -/
theorem fold_of_isBlank {c : Char} (h : isBlank c = true) : Unicode.fold c = c := by
  have hc := mem_blankPoints h
  by_cases hascii : c.toNat < 128
  · have := blankPoints_lower c.toNat hc hascii
    rwa [Char.ofNat_toNat, ← Unicode.fold_of_ascii hascii] at this
  · have hk : c ≠ Unicode.kelvinSign := by rintro rfl; exact absurd hc (by decide)
    have hs : c ≠ Unicode.longS := by rintro rfl; exact absurd hc (by decide)
    have hnone : Unicode.foldRuns.find? (·.holds c.toNat) = none :=
      List.find?_eq_none.mpr fun run hrun => by simp [foldRuns_not_blank _ hc run hrun]
    rw [Unicode.fold, if_neg hascii, if_neg hk, if_neg hs, Unicode.imageIn, hnone,
      Char.ofNat_toNat]

end Text

end Timekeeper
