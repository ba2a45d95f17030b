import Timekeeper.Proofs.Unicode.LetterCase
import Mathlib.Data.Bool.AllAny

/-!
# Letters of units without regard to case

There are two ways to disregard case: folds can be compared, or lower cases. For the **letters**
that units are spelled with, they agree on all characters but one.

* Folding makes one letter of the two that stand for micro, and the lower case keeps them apart. But
  both have the Greek capital and nothing else beyond them.
* The long s folds to `s` although it is a small letter, and so it is its own lower case.

So what folds to a letter and is no long s has a letter as its lower case (`exists_lowerChar_eq`),
and what has a letter in its lower case folds as the letter does and is no long s
(`fold_eq_of_lowerChar_eq`). Which characters these are is found by following the runs backwards.
-/

namespace Timekeeper

namespace Unicode

/-- The **letters** that units are spelled with. -/
def letters : List Char := ['m', 'µ', 'μ', 'u', 'n', 's']

/-- The letters and their capitals. -/
private def lettersInCase : List Char :=
  ['m', 'M', 'µ', 'μ', 'Μ', 'u', 'U', 'n', 'N', 's', 'S']

/-! ### Runs backwards -/

/-- The member of a run that has an image is found back. -/
theorem CaseRun.source?_eq_some {run : CaseRun} {point image : Nat} (h : run.holds point = true)
    (himage : run.image point = image) (hpos : 0 < image) : run.source? image = some point := by
  have hback : ((image : Int) - run.shift).toNat = point := by
    rw [CaseRun.image] at himage
    omega
  rw [source?, hback]
  simp [h, himage]

/-- A number that stands for a character is the number of the character. -/
private theorem eq_toNat_of_ofNat_eq {n : Nat} {d : Char} (h : Char.ofNat n = d)
    (hd : 0 < d.toNat) : n = d.toNat := by
  subst h
  by_cases hvalid : n.isValidChar
  · exact (toNat_ofNat_of_isValidChar hvalid).symm
  · rw [Char.ofNat, dif_neg hvalid] at hd
    exact absurd hd (by decide)

-- The letters are gone through by `all`: there are finitely many characters, so `∀ d ∈ letters` may
-- be decided over all of them instead, and they are too many for that.
private theorem source?_lowerRuns : ∀ run ∈ lowerRuns, letters.all (fun d =>
    (run.source? d.toNat).all fun point =>
      point == 'Μ'.toNat && d == 'μ' && fold 'Μ' == fold d) = true := by
  decide +kernel

private theorem source?_foldRuns : ∀ run ∈ foldRuns,
    (run.source? 'μ'.toNat).all (fun point => point == 'µ'.toNat || point == 'Μ'.toNat) = true := by
  decide +kernel

/-- What folds to the Greek letter is one of three characters. -/
theorem eq_of_fold_eq_mu {c : Char} (h : fold c = 'μ') : c = 'µ' ∨ c = 'μ' ∨ c = 'Μ' := by
  by_cases hc : c.toNat < 128
  · rw [fold_of_ascii hc] at h
    exact forall_ascii (P := fun c => c.toLower = 'μ' → c = 'µ' ∨ c = 'μ' ∨ c = 'Μ')
      (by decide) hc h
  · have hkelvin : c ≠ kelvinSign := by
      rintro rfl
      exact absurd h (by decide)
    have hlong : c ≠ longS := by
      rintro rfl
      exact absurd h (by decide)
    rw [fold, if_neg hc, if_neg hkelvin, if_neg hlong] at h
    have himage := eq_toNat_of_ofNat_eq h (by decide)
    rw [imageIn] at himage
    split at himage
    · rename_i run hrun
      have hholds : run.holds c.toNat = true := by simpa using List.find?_some hrun
      have hsource := CaseRun.source?_eq_some hholds himage (by decide)
      have hall := source?_foldRuns run (List.mem_of_find?_eq_some hrun)
      rw [hsource, Option.all_some, Bool.or_eq_true, beq_iff_eq, beq_iff_eq, Char.toNat_inj,
        Char.toNat_inj] at hall
      obtain rfl | rfl := hall
      · exact .inl rfl
      · exact .inr (.inr rfl)
    · exact .inr (.inl (Char.toNat_inj.mp himage))

/-! ### Lower case -/

/-- Where the lower case of a character begins with a letter, it is that letter. The character folds
as the letter does, and it is not the long s. -/
theorem fold_eq_of_lowerChar_eq {c d : Char} {rest : List Char} (h : lowerChar c = d :: rest)
    (hd : d ∈ letters) : rest = [] ∧ fold c = fold d ∧ c ≠ longS := by
  rw [lowerChar] at h
  split_ifs at h with hascii hdotted hkelvin
  · obtain ⟨rfl, rfl⟩ := List.cons.inj h
    refine ⟨rfl, ?_, ?_⟩
    · exact (fold_toLower c).symm
    · rintro rfl
      exact absurd hascii (by decide)
  · obtain ⟨rfl, -⟩ := List.cons.inj h
    exact absurd hd (by decide)
  · obtain ⟨rfl, -⟩ := List.cons.inj h
    exact absurd hd (by decide)
  · split at h
    · rename_i run hrun
      obtain ⟨himage, rfl⟩ := List.cons.inj h
      have hpos : 0 < d.toNat := by
        have hall : ∀ d ∈ letters, 0 < d.toNat := List.all_iff_forall_prop.mp (by decide)
        exact hall d hd
      have hholds : run.holds c.toNat = true := by simpa using List.find?_some hrun
      have hsource := CaseRun.source?_eq_some hholds (eq_toNat_of_ofNat_eq himage hpos) hpos
      have hrunAll := source?_lowerRuns run (List.mem_of_find?_eq_some hrun)
      have hall := List.all_eq_true.mp hrunAll d hd
      rw [hsource, Option.all_some, Bool.and_eq_true, Bool.and_eq_true, beq_iff_eq, beq_iff_eq,
        beq_iff_eq, Char.toNat_inj] at hall
      obtain ⟨⟨rfl, rfl⟩, hfold⟩ := hall
      exact ⟨rfl, hfold, by decide⟩
    · obtain ⟨rfl, rfl⟩ := List.cons.inj h
      refine ⟨rfl, rfl, ?_⟩
      rintro rfl
      exact absurd hd (by decide)

/-- What folds as a letter does, apart from the long s, is a letter or a capital of one. -/
private theorem mem_lettersInCase {c e : Char} (h : fold c = fold e) (he : e ∈ letters)
    (hlong : c ≠ longS) : c ∈ lettersInCase := by
  have hfolds : ∀ e ∈ letters,
      fold e = 's' ∨ fold e = 'μ' ∨ fold e ∈ ['m', 'u', 'n'] :=
    List.all_iff_forall_prop.mp (by decide)
  obtain hs | hmu | hother := hfolds e he
  · obtain rfl | rfl | rfl := eq_of_fold_eq_s (h.trans hs)
    · decide
    · decide
    · exact absurd rfl hlong
  · obtain rfl | rfl | rfl := eq_of_fold_eq_mu (h.trans hmu) <;> decide
  · have hascii : ∀ f ∈ ['m', 'u', 'n'], f.toNat < 128 ∧ f ≠ 'k' ∧ f ≠ 's' :=
      List.all_iff_forall_prop.mp (by decide)
    have hcases : ∀ f ∈ ['m', 'u', 'n'], f ∈ lettersInCase ∧ f.toUpper ∈ lettersInCase :=
      List.all_iff_forall_prop.mp (by decide)
    obtain ⟨hlt, hk, hs⟩ := hascii _ hother
    obtain ⟨hsmall, hcapital⟩ := hcases _ hother
    obtain rfl | rfl := eq_of_fold_eq hlt hk hs h
    · exact hsmall
    · exact hcapital

/-- What folds as a letter does has a letter as its lower case, which folds the same, unless it is
the long s. -/
theorem exists_lowerChar_eq {c e : Char} (h : fold c = fold e) (he : e ∈ letters)
    (hlong : c ≠ longS) : c ≠ 'Σ' ∧ ∃ d ∈ letters, lowerChar c = [d] ∧ fold d = fold e := by
  have hall : ∀ c ∈ lettersInCase,
      c ≠ 'Σ' ∧ lowerChar c ∈ letters.map ([·]) ∧ (lowerChar c).map fold = [fold c] :=
    List.all_iff_forall_prop.mp (by decide)
  obtain ⟨hsigma, hmem, hfold⟩ := hall c (mem_lettersInCase h he hlong)
  obtain ⟨d, hd, hlower⟩ := List.mem_map.mp hmem
  rw [← hlower, h] at hfold
  exact ⟨hsigma, d, hd, hlower.symm, (List.cons.inj hfold).1⟩

/-! ### Texts -/

variable {before text x : List Char}

theorem lowerChar_ne_nil (c : Char) : lowerChar c ≠ [] := by
  rw [lowerChar]
  split_ifs
  · exact List.cons_ne_nil _ _
  · exact List.cons_ne_nil _ _
  · exact List.cons_ne_nil _ _
  · split <;> exact List.cons_ne_nil _ _

/-- A text of which the lower case has letters only folds as its lower case does. -/
theorem map_fold_of_lowerFrom (h : ∀ d ∈ lowerFrom before text, d ∈ letters) :
    text.map fold = (lowerFrom before text).map fold ∧ longS ∉ text := by
  induction text generalizing before with
  | nil => exact ⟨rfl, List.not_mem_nil⟩
  | cons c text ih =>
    rw [lowerFrom] at h ⊢
    obtain ⟨hfirst, hrest⟩ := List.forall_mem_append.mp h
    obtain ⟨hfold, hnone⟩ := ih hrest
    by_cases hsigma : c = 'Σ'
    · -- neither of the small sigmas is a letter
      rw [if_pos hsigma, List.forall_mem_singleton] at hfirst
      split at hfirst
      · exact absurd hfirst (by decide)
      · exact absurd hfirst (by decide)
    · rw [if_neg hsigma] at hfirst ⊢
      obtain ⟨d, rest, hlower⟩ := List.exists_cons_of_ne_nil (lowerChar_ne_nil c)
      have hd : d ∈ letters := hfirst d (hlower ▸ List.mem_cons_self)
      obtain ⟨rfl, hsame, hlong⟩ := fold_eq_of_lowerChar_eq hlower hd
      refine ⟨?_, List.not_mem_cons_of_ne_of_not_mem (Ne.symm hlong) hnone⟩
      rw [hlower, List.map_cons, hsame, hfold, List.singleton_append, List.map_cons]

/-- A text without a long s that folds as some letters do has letters as its lower case, and these
fold the same. -/
theorem lowerFrom_of_map_fold (h : text.map fold = x.map fold) (hx : ∀ e ∈ x, e ∈ letters)
    (hlong : longS ∉ text) : (∀ d ∈ lowerFrom before text, d ∈ letters) ∧
      (lowerFrom before text).map fold = x.map fold := by
  induction text generalizing before x with
  | nil => exact ⟨fun d hd => absurd hd List.not_mem_nil, h⟩
  | cons c text ih =>
    cases x with
    | nil => exact absurd h (List.cons_ne_nil _ _)
    | cons e x =>
      obtain ⟨hhead, htail⟩ := List.cons.inj h
      obtain ⟨he, hx⟩ := List.forall_mem_cons.mp hx
      have hne : longS ≠ c := List.ne_of_not_mem_cons hlong
      have hnone : longS ∉ text := List.not_mem_of_not_mem_cons hlong
      obtain ⟨hsigma, d, hd, hlower, hsame⟩ := exists_lowerChar_eq hhead he (Ne.symm hne)
      have hothers : (∀ d ∈ lowerFrom (c :: before) text, d ∈ letters) ∧
          (lowerFrom (c :: before) text).map fold = x.map fold := ih htail hx hnone
      obtain ⟨hletters, hfold⟩ := hothers
      rw [lowerFrom, if_neg hsigma, hlower, List.singleton_append]
      refine ⟨List.forall_mem_cons.mpr ⟨hd, hletters⟩, ?_⟩
      rw [List.map_cons, List.map_cons, hsame, hfold]

end Unicode

end Timekeeper
