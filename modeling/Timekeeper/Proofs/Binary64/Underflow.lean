import Timekeeper.Proofs.Binary64.Order

/-!
# Signs and underflow

A magnitude **vanishes** when it is rounded to zero. That happens exactly up to half of the least
magnitude (`IsNearest.eq_zero_iff`), so of the operations on durations it happens to quotients only:
a duration that is divided by a natural number vanishes up to as many halves, and one that is
multiplied never does.

Numbers of the same magnitude and different signs are **opposite**. A sign goes through products,
quotients and the reading of decimals, whatever is rounded on the way, so a computation that begins
with a minus ends with one. Of a magnitude that vanishes the minus is all that is left.
-/

namespace Timekeeper

namespace Binary64

variable {x y : Binary64} {q : ℚ}

/-! ### What vanishes -/

/-- In the first binade magnitudes are multiples of the least one. -/
theorem magnitude_of_lt {rank : Nat} (h : rank < ranksPerBinade) :
    magnitude rank = rank / 2 ^ 1074 := by
  rw [magnitude, units, if_pos h]

/-- What is rounded from a magnitude has no minus, so it is zero as soon as its value is. -/
theorem IsNearest.eq_zero_iff_value (h : IsNearest q x) : x = zero ↔ x.value = 0 := by
  constructor
  · rintro rfl
    exact value_zero
  · obtain ⟨rank, hrank, rfl⟩ := h.exists_rank
    intro hvalue
    obtain rfl : rank = 0 := magnitude_strictMono.injective (hvalue.trans magnitude_zero.symm)
    rfl

/-- What is rounded vanishes exactly up to half of the least magnitude. -/
theorem IsNearest.eq_zero_iff (h : IsNearest q x) : x = zero ↔ 2 * q ≤ magnitude 1 := by
  have heven : 0 % 2 = 0 := rfl
  have hle := h.value_le_magnitude_iff heven (by decide)
  rw [magnitude_zero, zero_add, zero_add] at hle
  have hnonneg : 0 ≤ x.value := by
    obtain ⟨rank, hrank, rfl⟩ := h.exists_rank
    exact magnitude_nonneg rank
  rw [h.eq_zero_iff_value, ← hle]
  exact ⟨Eq.le, fun hzero => hzero.antisymm hnonneg⟩

/-- Divided by a natural number a duration vanishes exactly up to as many halves of the least
magnitude. -/
theorem IsDuration.div_eq_zero_iff (hx : IsDuration x) (hxpos : 0 < x.value) {n : Nat} (hn : 0 < n)
    (hduration : IsDuration (ofNat n)) (hvalue : (ofNat n).value = n) :
    x / ofNat n = zero ↔ 2 * x.value ≤ n * magnitude 1 := by
  have hpos : (0 : ℚ) < n := Nat.cast_pos.mpr hn
  have hnearest := hx.isNearest_div hduration hxpos (hvalue ▸ hpos)
  rw [hnearest.eq_zero_iff, hvalue, ← mul_div_assoc, div_le_iff₀ hpos, mul_comm (magnitude 1)]

/-- Multiplied by a natural number a duration does not vanish. -/
theorem IsDuration.mul_ne_zero (hx : IsDuration x) (hxpos : 0 < x.value) {n : Nat} (hn : 0 < n)
    (hduration : IsDuration (ofNat n)) (hvalue : (ofNat n).value = n) : x * ofNat n ≠ zero := by
  have hone : (1 : ℚ) ≤ n := Nat.one_le_cast.mpr hn
  have hnearest := hx.isNearest_mul hduration hxpos (hvalue ▸ one_pos.trans_le hone)
  obtain ⟨rank, hrank, rfl, -, hpos⟩ := hx.exists_rank hxpos
  rw [ne_eq, hnearest.eq_zero_iff, hvalue, not_le]
  change 0 < magnitude rank at hxpos
  change magnitude 1 < 2 * (magnitude rank * n)
  have hleast : magnitude 1 ≤ magnitude rank := magnitude_strictMono.monotone hpos
  have hle : magnitude rank ≤ magnitude rank * n := le_mul_of_one_le_right hxpos.le hone
  linarith

/-! ### Opposite numbers -/

/-- The number of the same magnitude with the other sign. -/
def opposite : Binary64 → Binary64
  | nan => nan
  | signed negative rank h => signed (!negative) rank h

theorem opposite_mul (x y : Binary64) : x.opposite * y = (x * y).opposite := by
  change mul x.opposite y = (mul x y).opposite
  cases x with
  | nan => rfl
  | signed s r hr =>
    cases y with
    | nan => rfl
    | signed t q hq =>
      rw [opposite, mul, mul, Bool.not_bne]
      split
      · split <;> rfl
      · rfl

theorem opposite_div (x y : Binary64) : x.opposite / y = (x / y).opposite := by
  change div x.opposite y = (div x y).opposite
  cases x with
  | nan => rfl
  | signed s r hr =>
    cases y with
    | nan => rfl
    | signed t q hq =>
      rw [opposite, div, div, Bool.not_bne]
      split
      · split <;> rfl
      split
      · rfl
      split
      · split <;> rfl
      · rfl

end Binary64

/-- With a minus in front of it a decimal is read as the opposite number. -/
theorem Decimal.nearest_of_negative {d : Decimal} (h : d.negative = true) :
    d.nearest = (nearest { d with negative := false }).opposite := by
  rw [nearest, nearest, h]
  split
  · rfl
  split
  · rfl
  split
  · rfl
  split <;> rfl

end Timekeeper
