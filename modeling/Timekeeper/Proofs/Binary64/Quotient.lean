import Timekeeper.Proofs.Binary64.Order

/-!
# Quotients against one

A quotient of two numbers is rounded, and still it is below one, one or above one exactly if the
dividend is below, equal to or above the divisor. That holds over the whole range, subnormal numbers
and quotients that leave the range included, because of two distances:

* neighbouring numbers lie apart by at least the `2 ^ 53`rd part of the greater one
  (`magnitude_le_gap`), so the exact quotient of two different numbers is at least as far from one;
* from one itself the next number below is as far away, and the next number above twice as far. A
  quotient below one is not rounded past the first, and a quotient above one lies beyond the middle
  to the second.
-/

namespace Timekeeper

namespace Binary64

variable {x y z : Binary64} {q : ℚ}

/-! ### Neighbouring numbers -/

/-- A rank is at most `2 ^ 53` steps of the binade below it away from zero. -/
private theorem units_succ_le (rank : Nat) :
    units (rank + 1) ≤ 2 ^ 53 * 2 ^ (rank / ranksPerBinade - 1) := by
  have hpos : 0 < ranksPerBinade := by decide
  have hf := Nat.mod_lt rank hpos
  have htwo : 2 ^ 53 = 2 * ranksPerBinade := by decide
  have hrank := units_eq (rank / ranksPerBinade) hf
  rw [Nat.div_add_mod'] at hrank
  rw [units_succ, hrank, htwo]
  split
  · rename_i hzero
    rw [hzero, Nat.zero_sub, pow_zero, Nat.mul_one]
    omega
  · rw [← Nat.succ_mul]
    exact Nat.mul_le_mul_right _ (by omega)

/-- Two magnitudes lie apart by at least the `2 ^ 53`rd part of the greater one. -/
theorem magnitude_le_gap {r s : Nat} (h : r < s) :
    magnitude s ≤ 2 ^ 53 * (magnitude s - magnitude r) := by
  obtain ⟨p, rfl⟩ : ∃ p, s = p + 1 := Nat.exists_eq_succ_of_ne_zero (Nat.ne_zero_of_lt h)
  have hr : magnitude r ≤ magnitude p := magnitude_strictMono.monotone (Nat.le_of_lt_succ h)
  have hstep : magnitude (p + 1) - magnitude p =
      ((2 ^ (p / ranksPerBinade - 1) : Nat) : ℚ) / 2 ^ 1074 := by
    rw [magnitude, magnitude, units_succ, Nat.cast_add, add_div, add_sub_cancel_left]
  have hle : magnitude (p + 1) ≤ 2 ^ 53 * (magnitude (p + 1) - magnitude p) := by
    have hunits : (units (p + 1) : ℚ) ≤ 2 ^ 53 * ((2 ^ (p / ranksPerBinade - 1) : Nat) : ℚ) := by
      exact_mod_cast units_succ_le p
    rw [hstep, magnitude, ← mul_div_assoc]
    exact div_le_div_of_nonneg_right hunits (by positivity)
  linarith

/-! ### The neighbours of one -/

/-- The rank of one. -/
private def rankOfOne : Nat := 0x3ff0000000000000

private theorem one_eq : one = signed false rankOfOne (by decide) := rfl

private theorem magnitude_rankOfOne : magnitude rankOfOne = 1 := value_one

private theorem magnitude_below_one : magnitude (rankOfOne - 1) = 1 - 1 / 2 ^ 53 := by
  have hsucc : rankOfOne - 1 + 1 = rankOfOne := by decide
  have hbinade : (rankOfOne - 1) / ranksPerBinade - 1 = 1021 := by decide
  have hstep := units_succ (rankOfOne - 1)
  rw [hsucc, hbinade] at hstep
  have hquotient : (2 : ℚ) ^ 1021 / 2 ^ 1074 = 1 / 2 ^ 53 := by
    rw [div_eq_div_iff (by positivity) (by positivity), ← pow_add, one_mul]
  have hone := magnitude_rankOfOne
  rw [magnitude, hstep, Nat.cast_add, add_div, Nat.cast_pow, Nat.cast_ofNat, hquotient] at hone
  exact eq_sub_of_add_eq hone

private theorem magnitude_above_one : magnitude (rankOfOne + 1) = 1 + 2 / 2 ^ 53 := by
  have hbinade : rankOfOne / ranksPerBinade - 1 = 1022 := by decide
  have hquotient : (2 : ℚ) ^ 1022 / 2 ^ 1074 = 2 / 2 ^ 53 := by
    rw [div_eq_div_iff (by positivity) (by positivity), ← pow_add, ← pow_succ']
  have hone := magnitude_rankOfOne
  rw [magnitude] at hone
  rw [magnitude, units_succ, hbinade, Nat.cast_add, add_div, hone, Nat.cast_pow, Nat.cast_ofNat,
    hquotient]

/-- What is not above the number below one is rounded to a number below one. -/
theorem IsNearest.lt_one (h : IsNearest q z) (hq : q ≤ 1 - 1 / 2 ^ 53) : z.lt one = true := by
  have hbelow : rankOfOne - 1 ≤ infinityRank := by decide
  have hle := h.value_le_value (isNearest_magnitude hbelow) (hq.trans magnitude_below_one.ge)
  obtain ⟨rank, hrank, rfl⟩ := h.exists_rank
  have hrank' : rank ≤ rankOfOne - 1 := magnitude_strictMono.le_iff_le.mp hle
  have hpos : 0 < rankOfOne := by decide
  have hlt : (rank : Int) < rankOfOne := by omega
  rwa [one_eq, lt, decide_eq_true_eq]

/-- What lies beyond the middle between one and the number above it is rounded to a number above
one. -/
theorem IsNearest.one_lt (h : IsNearest q z) (hq : 1 + 1 / 2 ^ 53 < q) : one.lt z = true := by
  obtain ⟨rank, hrank, rfl⟩ := h.exists_rank
  have habove : rankOfOne + 1 ≤ infinityRank := by decide
  have hpos : (0 : ℚ) < 1 / 2 ^ 53 := by positivity
  have htwo : (2 : ℚ) / 2 ^ 53 = 1 / 2 ^ 53 + 1 / 2 ^ 53 := by ring
  by_contra hle
  have hrank' : rank ≤ rankOfOne := by
    by_contra hlt
    have hlt : (rankOfOne : Int) < rank := by omega
    rw [one_eq, lt, decide_eq_true_eq] at hle
    exact hle hlt
  -- the number above one would be nearer than one and everything below
  have hmagnitude : magnitude rank ≤ 1 :=
    (magnitude_strictMono.monotone hrank').trans magnitude_rankOfOne.le
  have hnearer := (h.2 (rankOfOne + 1) habove).1
  rw [magnitude_above_one, abs_of_nonneg (by linarith)] at hnearer
  obtain ⟨habs, -⟩ | ⟨habs, -⟩ := abs_cases (q - (1 + 2 / 2 ^ 53)) <;> linarith

/-! ### Quotients -/

/-- Rounding a quotient does not change how it compares with one. -/
theorem IsDuration.div_cases (hx : IsDuration x) (hy : IsDuration y) (hxpos : 0 < x.value)
    (hypos : 0 < y.value) :
    (x.value < y.value ∧ (x / y).lt one = true) ∨ (x.value = y.value ∧ x / y = one) ∨
      (y.value < x.value ∧ one.lt (x / y) = true) := by
  have hnearest := hx.isNearest_div hy hxpos hypos
  -- how far apart the two are, told by their quotient
  have hgap {a b : Binary64} (ha : IsDuration a) (hb : IsDuration b) (hapos : 0 < a.value)
      (hbpos : 0 < b.value) (hlt : a.value < b.value) :
      b.value ≤ 2 ^ 53 * (b.value - a.value) := by
    obtain ⟨r, hr, rfl, -, -⟩ := ha.exists_rank hapos
    obtain ⟨s, hs, rfl, -, -⟩ := hb.exists_rank hbpos
    exact magnitude_le_gap (magnitude_strictMono.lt_iff_lt.mp hlt)
  obtain hlt | heq | hgt := lt_trichotomy x.value y.value
  · refine .inl ⟨hlt, hnearest.lt_one ?_⟩
    rw [div_le_iff₀ hypos]
    have := hgap hx hy hxpos hypos hlt
    linarith
  · refine .inr (.inl ⟨heq, ?_⟩)
    rw [heq, div_self hypos.ne', ← value_one] at hnearest
    have hone : IsDuration one := ⟨by decide, by decide⟩
    exact hnearest.unique (hone.isNearest_value (by rw [value_one]; exact one_pos))
  · refine .inr (.inr ⟨hgt, hnearest.one_lt ?_⟩)
    rw [lt_div_iff₀ hypos]
    have := hgap hy hx hypos hxpos hgt
    linarith

/-- A quotient is below one exactly if the dividend is below the divisor. -/
theorem IsDuration.div_lt_one_iff (hx : IsDuration x) (hy : IsDuration y) (hxpos : 0 < x.value)
    (hypos : 0 < y.value) : (x / y).lt one = true ↔ x.lt y = true := by
  rw [hx.lt_iff hy]
  obtain ⟨hlt, h⟩ | ⟨heq, h⟩ | ⟨hgt, h⟩ := hx.div_cases hy hxpos hypos
  · exact iff_of_true h hlt
  · rw [h, heq]
    exact iff_of_false (by decide) (lt_irrefl _)
  · exact iff_of_false (Bool.eq_false_iff.mp (lt_asymm h)) hgt.not_gt

/-- A quotient is one exactly if dividend and divisor are equal. -/
theorem IsDuration.div_eq_one_iff (hx : IsDuration x) (hy : IsDuration y) (hxpos : 0 < x.value)
    (hypos : 0 < y.value) : x / y = one ↔ x.value = y.value := by
  have hself : one.lt one = false := by decide
  obtain ⟨hlt, h⟩ | ⟨heq, h⟩ | ⟨hgt, h⟩ := hx.div_cases hy hxpos hypos
  · refine iff_of_false (fun hone => ?_) hlt.ne
    rw [hone, hself] at h
    contradiction
  · exact iff_of_true h heq
  · refine iff_of_false (fun hone => ?_) hgt.ne'
    rw [hone, hself] at h
    contradiction

/-- A quotient is not below one if the dividend is not below the divisor. -/
theorem IsDuration.one_le_div (hx : IsDuration x) (hy : IsDuration y) (hxpos : 0 < x.value)
    (hypos : 0 < y.value) (h : y.value ≤ x.value) : one.le (x / y) = true := by
  obtain ⟨hlt, -⟩ | ⟨-, hone⟩ | ⟨-, hgt⟩ := hx.div_cases hy hxpos hypos
  · exact absurd hlt h.not_gt
  · rw [hone]
    decide
  · exact le_of_lt hgt

/-- Quotients by one divisor are in the order of the dividends. -/
theorem IsDuration.div_le_div (hx : IsDuration x) (hy : IsDuration y) (hz : IsDuration z)
    (hxpos : 0 < x.value) (hypos : 0 < y.value) (hzpos : 0 < z.value) (h : x.value ≤ y.value) :
    (x / z).le (y / z) = true := by
  have hquotient : x.value / z.value ≤ y.value / z.value :=
    div_le_div_of_nonneg_right h hzpos.le
  exact (hx.isNearest_div hz hxpos hzpos).le_of_le (hy.isNearest_div hz hypos hzpos) hquotient

/-- The reciprocal of a rounded number below one is not below one. That of zero is infinite. -/
theorem IsNearest.one_le_one_div (h : IsNearest q z) (hlt : z.lt one = true) :
    one.le (one / z) = true := by
  have hone : IsDuration one := ⟨by decide, by decide⟩
  have hz : IsDuration z := by
    refine ⟨?_, h.zero_le⟩
    obtain hz | rfl := isDuration_or_eq_infinity h.zero_le
    · exact hz.1
    · contradiction
  obtain hzero | hpos := hz.value_nonneg.eq_or_lt
  · obtain ⟨rank, hrank, rfl⟩ := h.exists_rank
    obtain rfl : rank = 0 := magnitude_strictMono.injective (hzero.symm.trans magnitude_zero.symm)
    change one.le (one / zero) = true
    decide
  · have hvalue := (hz.lt_iff hone).mp hlt
    exact hone.one_le_div hz (by rw [value_one]; exact one_pos) hpos hvalue.le

end Binary64

end Timekeeper
