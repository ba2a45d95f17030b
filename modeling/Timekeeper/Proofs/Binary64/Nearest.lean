import Timekeeper.Binary64.Decimal
import Mathlib.Algebra.Order.Field.Basic
import Mathlib.Algebra.Order.Field.Power
import Mathlib.Algebra.Order.Group.Abs
import Mathlib.Algebra.Order.Ring.Rat
import Mathlib.Data.Nat.Log
import Mathlib.Order.Monotone.Basic
import Mathlib.Tactic.Linarith
import Mathlib.Tactic.NormNum
import Mathlib.Tactic.Positivity
import Mathlib.Tactic.Ring

/-!
# Rounding is to the nearest number

`units` counts the exact magnitude behind a rank, and from one rank to the next it grows by a
step that doubles with every binade (`units_succ`). So the ranks are in the order of their
magnitudes, and a rank is nearest to a quotient once the quotient lies between the **midpoints**
on either side of the rank (`rankOf_midpoints`). Inside a binade both midpoints are half a step
away, which is what rounded division is off by at most. At the first rank of a binade the lower
one is closer, but there the quotient is not below the rank at all.

`IsNearest` says what rounding to the nearest number with ties to the even rank is, without
saying how it is done: at most one number is nearest (`IsNearest.unique`). Quotients are rounded
so (`isNearest_ofQuotient`), and decimals are, those included whose powers of ten are never
worked out (`Decimal.isNearest_nearest`).
-/

namespace Timekeeper

/-! ### Rounded division -/

/-- Rounded division is off by at most half of the divisor, and if it is off by as much the
result is even. -/
theorem roundDiv_bounds (n : Nat) {d : Nat} (hd : 0 < d) :
    (2 * n ≤ (2 * roundDiv n d + 1) * d ∧
      (2 * n = (2 * roundDiv n d + 1) * d → roundDiv n d % 2 = 0)) ∧
    (2 * roundDiv n d * d ≤ 2 * n + d ∧
      (2 * roundDiv n d * d = 2 * n + d → roundDiv n d % 2 = 0)) := by
  have hn := Nat.div_add_mod n d
  have hr := Nat.mod_lt n hd
  rw [roundDiv]
  generalize n / d = q at *
  generalize n % d = r at *
  have hup : (2 * q + 1) * d = 2 * (d * q) + d := by ring
  have hup' : (2 * (q + 1) + 1) * d = 2 * (d * q) + 3 * d := by ring
  have hdown : 2 * q * d = 2 * (d * q) := by ring
  have hdown' : 2 * (q + 1) * d = 2 * (d * q) + 2 * d := by ring
  split
  · omega
  split
  · omega
  split
  · omega
  · omega

namespace Binary64

/-! ### Exact magnitudes -/

private theorem ranksPerBinade_pos : 0 < ranksPerBinade := by decide

/-- The exact magnitude of a rank by its binade and its place in it. -/
theorem units_eq (e : Nat) {f : Nat} (hf : f < ranksPerBinade) :
    units (e * ranksPerBinade + f) =
      if e = 0 then f else (ranksPerBinade + f) * 2 ^ (e - 1) := by
  have hdiv : (e * ranksPerBinade + f) / ranksPerBinade = e := by
    rw [Nat.mul_comm, Nat.mul_add_div ranksPerBinade_pos, Nat.div_eq_of_lt hf, Nat.add_zero]
  have hmod : (e * ranksPerBinade + f) % ranksPerBinade = f := by
    rw [Nat.mul_add_mod_self_right, Nat.mod_eq_of_lt hf]
  rw [units, hdiv, hmod, Nat.shiftLeft_eq]
  cases e with
  | zero => rw [Nat.zero_mul, Nat.zero_add, if_pos hf, if_pos rfl]
  | succ e =>
    have hle : ranksPerBinade ≤ (e + 1) * ranksPerBinade + f :=
      (Nat.le_mul_of_pos_left _ (Nat.succ_pos e)).trans (Nat.le_add_right _ _)
    rw [if_neg (Nat.not_lt.mpr hle), if_neg (Nat.succ_ne_zero e)]

/-- From one rank to the next the step doubles with every binade. -/
theorem units_succ (rank : Nat) :
    units (rank + 1) = units rank + 2 ^ (rank / ranksPerBinade - 1) := by
  have hf := Nat.mod_lt rank ranksPerBinade_pos
  have hrank : rank = rank / ranksPerBinade * ranksPerBinade + rank % ranksPerBinade :=
    (Nat.div_add_mod' rank ranksPerBinade).symm
  generalize rank / ranksPerBinade = e at *
  generalize rank % ranksPerBinade = f at *
  rw [hrank, units_eq e hf]
  by_cases hlast : f + 1 < ranksPerBinade
  · rw [Nat.add_assoc, units_eq e hlast]
    cases e with
    | zero => simp
    | succ e =>
      simp only [Nat.succ_ne_zero, if_false]
      ring
  · -- behind the last rank of a binade comes the first one of the next
    obtain hP : ranksPerBinade = f + 1 := by omega
    have hnext : e * ranksPerBinade + f + 1 = (e + 1) * ranksPerBinade + 0 := by
      rw [hP]
      ring
    rw [hnext, units_eq (e + 1) ranksPerBinade_pos]
    cases e with
    | zero => simp [hP]
    | succ e =>
      simp only [Nat.succ_ne_zero, if_false, Nat.add_sub_cancel, hP]
      ring

theorem units_strictMono : StrictMono units :=
  strictMono_nat_of_lt_succ fun rank => by
    rw [units_succ]
    exact Nat.lt_add_of_pos_right (Nat.two_pow_pos _)

/-- Within a binade, the first rank of the next one included, the ranks count the steps. -/
theorem units_add_binades {m b : Nat} (hm : m ≤ 2 * ranksPerBinade)
    (hb : b = 0 ∨ ranksPerBinade ≤ m) : units (m + b * ranksPerBinade) = m * 2 ^ b := by
  by_cases hlow : m < ranksPerBinade
  · obtain rfl : b = 0 := by omega
    rw [Nat.add_comm, units_eq 0 hlow, if_pos rfl, pow_zero, Nat.mul_one]
  by_cases hhigh : m < 2 * ranksPerBinade
  · have hrank : m + b * ranksPerBinade = (b + 1) * ranksPerBinade + (m - ranksPerBinade) := by
      rw [Nat.add_mul]
      omega
    rw [hrank, units_eq (b + 1) (by omega), if_neg (Nat.succ_ne_zero b), Nat.add_sub_cancel,
      Nat.add_sub_cancel' (Nat.not_lt.mp hlow)]
  · obtain rfl : m = 2 * ranksPerBinade := by omega
    have hrank : 2 * ranksPerBinade + b * ranksPerBinade = (b + 2) * ranksPerBinade + 0 := by ring
    rw [hrank, units_eq (b + 2) ranksPerBinade_pos, if_neg (Nat.succ_ne_zero _)]
    have hexp : b + 2 - 1 = b + 1 := by omega
    rw [hexp, Nat.add_zero, pow_succ', ← Nat.mul_assoc, Nat.mul_comm ranksPerBinade]

/-! ### The nearest rank -/

private theorem roundDiv_mem (num den : Nat) :
    num / den ≤ roundDiv num den ∧ roundDiv num den ≤ num / den + 1 := by
  rw [roundDiv]
  split
  · omega
  split
  · omega
  split <;> omega

private theorem ranksPerBinade_eq : ranksPerBinade = 2 ^ 52 := by decide

/-- In the binade of a quotient `rankOf` rounds to a number of steps between the first rank of
the binade and the first one of the next; below the first binade there is none. -/
private theorem binade_bounds (num : Nat) {den : Nat} (hden : 0 < den) :
    roundDiv num (den * 2 ^ binadeOf num den) ≤ 2 * ranksPerBinade ∧
      (binadeOf num den = 0 ∨
        ranksPerBinade ≤ roundDiv num (den * 2 ^ binadeOf num den) ∧
          den * (ranksPerBinade * 2 ^ binadeOf num den) ≤ num) := by
  have hlog : num / den < 2 ^ ((num / den).log2 + 1) := Nat.lt_log2_self
  obtain ⟨b, hb⟩ : ∃ b, binadeOf num den = b := ⟨_, rfl⟩
  have hD : 0 < den * 2 ^ b := Nat.mul_pos hden (Nat.two_pow_pos b)
  obtain ⟨hle, hge⟩ := roundDiv_mem num (den * 2 ^ b)
  rw [hb, ranksPerBinade_eq]
  rw [binadeOf] at hb
  refine ⟨?_, ?_⟩
  · have hexp : 2 ^ ((num / den).log2 + 1) ≤ 2 ^ (53 + b) :=
      Nat.pow_le_pow_right (by decide) (by omega)
    have hnum : num < 2 ^ 53 * (den * 2 ^ b) := by
      have h := (Nat.div_lt_iff_lt_mul hden).mp (hlog.trans_le hexp)
      calc num < 2 ^ (53 + b) * den := h
        _ = 2 ^ 53 * (den * 2 ^ b) := by rw [pow_add]; ring
    have hdiv : num / (den * 2 ^ b) < 2 ^ 53 := (Nat.div_lt_iff_lt_mul hD).mpr hnum
    omega
  · by_cases hzero : b = 0
    · exact .inl hzero
    right
    have hne : num / den ≠ 0 := by
      intro h
      rw [h] at hb
      exact hzero (hb.symm.trans rfl)
    have hself : 2 ^ (52 + b) ≤ num / den := by
      have h := Nat.log2_self_le hne
      rwa [show (num / den).log2 = 52 + b by omega] at h
    have hnum : den * (2 ^ 52 * 2 ^ b) ≤ num := by
      have h := (Nat.le_div_iff_mul_le hden).mp hself
      calc den * (2 ^ 52 * 2 ^ b) = 2 ^ (52 + b) * den := by rw [pow_add]; ring
        _ ≤ num := h
    refine ⟨?_, hnum⟩
    have hdiv : 2 ^ 52 ≤ num / (den * 2 ^ b) := by
      rw [Nat.le_div_iff_mul_le hD]
      calc 2 ^ 52 * (den * 2 ^ b) = den * (2 ^ 52 * 2 ^ b) := by ring
        _ ≤ num := hnum
    omega

/-- A quotient lies between the midpoints on either side of its rank, and on one only if the
rank is even. -/
theorem rankOf_midpoints (num : Nat) {den : Nat} (hden : 0 < den) :
    (2 * num ≤ den * (units (rankOf num den) + units (rankOf num den + 1)) ∧
      (2 * num = den * (units (rankOf num den) + units (rankOf num den + 1)) →
        rankOf num den % 2 = 0)) ∧
    ∀ r, r + 1 = rankOf num den → den * (units r + units (rankOf num den)) ≤ 2 * num ∧
      (den * (units r + units (rankOf num den)) = 2 * num → rankOf num den % 2 = 0) := by
  obtain ⟨hm, hb⟩ := binade_bounds num hden
  have hD : 0 < den * 2 ^ binadeOf num den := Nat.mul_pos hden (Nat.two_pow_pos _)
  obtain ⟨⟨hup, hup'⟩, hdown, hdown'⟩ := roundDiv_bounds num hD
  have hrank : rankOf num den = roundDiv num (den * 2 ^ binadeOf num den) +
      binadeOf num den * ranksPerBinade := by
    rw [rankOf, Nat.shiftLeft_eq]
  generalize roundDiv num (den * 2 ^ binadeOf num den) = m at *
  generalize binadeOf num den = b at *
  rw [hrank]
  have hunits : units (m + b * ranksPerBinade) = m * 2 ^ b :=
    units_add_binades hm (hb.imp_right And.left)
  have heven : m % 2 = 0 → (m + b * ranksPerBinade) % 2 = 0 := by
    intro h
    have hranks : ranksPerBinade % 2 = 0 := by decide
    rw [Nat.add_mod, h, Nat.mul_mod, hranks, Nat.mul_zero, Nat.zero_mod]
  have hstep : den * (2 * (m * 2 ^ b) + 2 ^ b) = (2 * m + 1) * (den * 2 ^ b) := by ring
  -- the rank above is at least one step of the binade away
  have hnext : units (m + b * ranksPerBinade) + 2 ^ b ≤ units (m + b * ranksPerBinade + 1) := by
    rw [units_succ]
    have hbinade : b ≤ (m + b * ranksPerBinade) / ranksPerBinade - 1 := by
      rw [Nat.add_mul_div_right _ _ ranksPerBinade_pos]
      obtain rfl | ⟨hge, -⟩ := hb
      · exact Nat.zero_le _
      · have := (Nat.le_div_iff_mul_le ranksPerBinade_pos).mpr ((Nat.one_mul _).le.trans hge)
        omega
    exact Nat.add_le_add_left (Nat.pow_le_pow_right (by decide) hbinade) _
  rw [hunits] at hnext ⊢
  have hbelow : (2 * m + 1) * (den * 2 ^ b) ≤
      den * (m * 2 ^ b + units (m + b * ranksPerBinade + 1)) := by
    rw [← hstep]
    exact Nat.mul_le_mul_left den (by omega)
  refine ⟨⟨hup.trans hbelow, fun h => heven (hup' (Nat.le_antisymm hup (h ▸ hbelow)))⟩,
    fun r hr => ?_⟩
  have hprev : m * 2 ^ b = units r + 2 ^ (r / ranksPerBinade - 1) := by
    rw [← hunits, ← hr, units_succ]
  by_cases hfirst : b = 0 ∨ ranksPerBinade < m
  · -- the rank below is one step of the binade away
    have hbinade : r / ranksPerBinade - 1 = b := by
      obtain rfl | hlt := hfirst
      · rw [Nat.zero_mul, Nat.add_zero] at hr
        have : r / ranksPerBinade < 2 := (Nat.div_lt_iff_lt_mul ranksPerBinade_pos).mpr (by omega)
        omega
      · obtain ⟨f, rfl⟩ : ∃ f, m = ranksPerBinade + f + 1 :=
          Nat.exists_eq_add_of_lt hlt
        have hrank' : r = (b + 1) * ranksPerBinade + f := by
          rw [Nat.add_mul]
          omega
        rw [hrank', Nat.mul_comm, Nat.mul_add_div ranksPerBinade_pos,
          Nat.div_eq_of_lt (by omega), Nat.add_zero, Nat.add_sub_cancel]
    rw [hbinade] at hprev
    have hmid : den * (units r + m * 2 ^ b) + den * 2 ^ b = 2 * m * (den * 2 ^ b) := by
      calc den * (units r + m * 2 ^ b) + den * 2 ^ b
          = den * (units r + 2 ^ b + m * 2 ^ b) := by ring
        _ = 2 * m * (den * 2 ^ b) := by rw [← hprev]; ring
    exact ⟨by omega, fun h => heven (hdown' (by omega))⟩
  · -- the rank is the first of its binade, and the quotient is not below it
    obtain ⟨hb0, hm'⟩ := not_or.mp hfirst
    obtain ⟨hge, hnum⟩ := hb.resolve_left hb0
    obtain rfl : m = ranksPerBinade := Nat.le_antisymm (Nat.not_lt.mp hm') hge
    have hlt : units r < ranksPerBinade * 2 ^ b := by
      rw [hprev]
      exact Nat.lt_add_of_pos_right (Nat.two_pow_pos _)
    have hstrict : den * (units r + ranksPerBinade * 2 ^ b) < 2 * num := by
      calc den * (units r + ranksPerBinade * 2 ^ b)
          < den * (ranksPerBinade * 2 ^ b + ranksPerBinade * 2 ^ b) :=
            Nat.mul_lt_mul_of_pos_left (by omega) hden
        _ = 2 * (den * (ranksPerBinade * 2 ^ b)) := by ring
        _ ≤ 2 * num := by omega
    exact ⟨hstrict.le, fun h => absurd h hstrict.ne⟩

/-! ### Nearest numbers -/

theorem unitsOfOne_eq : (unitsOfOne : ℚ) = 2 ^ 1074 := by
  have hshift (n : Nat) : ((1 <<< n : Nat) : ℚ) = 2 ^ n := by
    rw [Nat.one_shiftLeft, Nat.cast_pow, Nat.cast_ofNat]
  exact hshift 1074

theorem unitsOfOne_pos : 0 < unitsOfOne := by decide

theorem powerOfTen_eq (places : Nat) : (powerOfTen places : ℚ) = 10 ^ places := by
  rw [powerOfTen]
  exact Nat.cast_pow 10 places

/-- The exact **magnitude** of a rank. Infinity counts as the power of two that comes after the
largest finite magnitude. -/
def magnitude (rank : Nat) : ℚ := units rank / 2 ^ 1074

theorem magnitude_strictMono : StrictMono magnitude := fun r s h => by
  have hunits : (units r : ℚ) < units s := by exact_mod_cast units_strictMono h
  exact div_lt_div_of_pos_right hunits (by positivity)

theorem magnitude_zero : magnitude 0 = 0 := by
  have hunits : units 0 = 0 := by decide
  rw [magnitude, hunits, Nat.cast_zero, zero_div]

theorem magnitude_infinityRank : magnitude infinityRank = 2 ^ 1024 := by
  have hrank : infinityRank = ranksPerBinade + 2046 * ranksPerBinade := by decide
  have hunits : units infinityRank = 2 ^ 52 * 2 ^ 2046 := by
    rw [hrank, units_add_binades (by omega) (.inr le_rfl), ranksPerBinade_eq]
  rw [magnitude, hunits, div_eq_iff (by positivity), Nat.cast_mul, Nat.cast_pow, Nat.cast_pow,
    Nat.cast_ofNat, ← pow_add, ← pow_add]

/-- A number is **nearest** to a magnitude when no rank is nearer, and of two ranks that are
equally near it has the even one. -/
def IsNearest (q : ℚ) : Binary64 → Prop
  | nan => False
  | signed negative rank _ =>
    negative = false ∧ ∀ other ≤ infinityRank, |q - magnitude rank| ≤ |q - magnitude other| ∧
      (|q - magnitude other| = |q - magnitude rank| → other ≠ rank → rank % 2 = 0)

variable {q : ℚ} {rank : Nat}

/-- A rank is nearest to everything between the midpoints on either side, of which even ranks
have both and odd ones neither. -/
private theorem isNearest_signed (hle : rank ≤ infinityRank)
    (hup : rank < infinityRank → 2 * q ≤ magnitude rank + magnitude (rank + 1) ∧
      (2 * q = magnitude rank + magnitude (rank + 1) → rank % 2 = 0))
    (hdown : ∀ r, r + 1 = rank → magnitude r + magnitude rank ≤ 2 * q ∧
      (magnitude r + magnitude rank = 2 * q → rank % 2 = 0)) :
    IsNearest q (signed false rank hle) := by
  refine ⟨rfl, fun other hother => ?_⟩
  obtain hlt | rfl | hlt := Nat.lt_trichotomy other rank
  · -- of the ranks below the next one is the nearest, and the magnitude is past their midpoint
    obtain ⟨r, rfl⟩ : ∃ r, rank = r + 1 := Nat.exists_eq_succ_of_ne_zero (Nat.ne_zero_of_lt hlt)
    obtain ⟨hmid, heven⟩ := hdown r rfl
    have hr : magnitude other ≤ magnitude r :=
      magnitude_strictMono.monotone (Nat.le_of_lt_succ hlt)
    have hrank := magnitude_strictMono hlt
    have habs : |q - magnitude other| = q - magnitude other := abs_of_nonneg (by linarith)
    rw [habs]
    refine ⟨abs_le.mpr ⟨by linarith, by linarith⟩, fun heq _ => heven ?_⟩
    obtain ⟨habs', -⟩ | ⟨habs', -⟩ := abs_cases (q - magnitude (r + 1)) <;> linarith
  · exact ⟨le_rfl, fun _ hne => absurd rfl hne⟩
  · obtain ⟨hmid, heven⟩ := hup (hlt.trans_le hother)
    have hr : magnitude (rank + 1) ≤ magnitude other := magnitude_strictMono.monotone hlt
    have hrank := magnitude_strictMono hlt
    have habs : |q - magnitude other| = magnitude other - q := by
      rw [abs_sub_comm]
      exact abs_of_nonneg (by linarith)
    rw [habs]
    refine ⟨abs_le.mpr ⟨by linarith, by linarith⟩, fun heq _ => heven ?_⟩
    obtain ⟨habs', -⟩ | ⟨habs', -⟩ := abs_cases (q - magnitude rank) <;> linarith

/-- Two even ranks are not both nearest: the odd one behind the lower of them is nearer. -/
private theorem not_even_of_nearest {a b : Nat} (hlt : a < b)
    (hsame : |q - magnitude b| = |q - magnitude a|)
    (hleast : |q - magnitude a| ≤ |q - magnitude (a + 1)|) (ha : a % 2 = 0) : ¬b % 2 = 0 := by
  intro hb
  have hlow : magnitude a < magnitude (a + 1) := magnitude_strictMono (Nat.lt_succ_self a)
  have hhigh : magnitude (a + 1) < magnitude b := magnitude_strictMono (by omega)
  have hmid : 2 * q = magnitude a + magnitude b := by
    obtain h | h := abs_eq_abs.mp hsame <;> linarith
  have hnearer : |q - magnitude (a + 1)| < q - magnitude a :=
    abs_lt.mpr ⟨by linarith, by linarith⟩
  exact absurd (hleast.trans_lt hnearer) (le_abs_self _).not_gt

/-- There is one number at most that is nearest. -/
theorem IsNearest.unique {x y : Binary64} (hx : IsNearest q x) (hy : IsNearest q y) : x = y := by
  cases x with
  | nan => exact hx.elim
  | signed s r hr =>
    cases y with
    | nan => exact hy.elim
    | signed t u hu =>
      obtain ⟨rfl, hx⟩ := hx
      obtain ⟨rfl, hy⟩ := hy
      have hsame : |q - magnitude u| = |q - magnitude r| :=
        le_antisymm (hy r hr).1 (hx u hu).1
      by_contra hne
      have hru : u ≠ r := fun h => hne (by subst h; rfl)
      have hr2 := (hx u hu).2 hsame hru
      have hu2 := (hy r hr).2 hsame.symm hru.symm
      obtain hlt | hlt := Nat.lt_or_gt_of_ne hru
      · exact not_even_of_nearest hlt hsame.symm (hy _ (by omega)).1 hu2 hr2
      · exact not_even_of_nearest hlt hsame (hx _ (by omega)).1 hr2 hu2

/-- A quotient of units is rounded to the nearest number. -/
theorem isNearest_ofQuotient (num : Nat) {den : Nat} (hden : 0 < den) :
    IsNearest ((num : ℚ) / den / 2 ^ 1074) (ofQuotient false num den) := by
  have hpos : (0 : ℚ) < den := by exact_mod_cast hden
  have hunit : (0 : ℚ) < 2 ^ 1074 := by positivity
  have sum (r s : Nat) : magnitude r + magnitude s = ((den * (units r + units s) : Nat) : ℚ) /
      den / 2 ^ 1074 := by
    rw [magnitude, magnitude, Nat.cast_mul, mul_div_cancel_left₀ _ hpos.ne', Nat.cast_add, add_div]
  have double : 2 * ((num : ℚ) / den / 2 ^ 1074) = ((2 * num : Nat) : ℚ) / den / 2 ^ 1074 := by
    rw [Nat.cast_mul, Nat.cast_ofNat, mul_div_assoc, mul_div_assoc]
  have hle {a b : Nat} : (a : ℚ) / den / 2 ^ 1074 ≤ (b : ℚ) / den / 2 ^ 1074 ↔ a ≤ b := by
    rw [div_le_div_iff_of_pos_right hunit, div_le_div_iff_of_pos_right hpos, Nat.cast_le]
  have heq {a b : Nat} : (a : ℚ) / den / 2 ^ 1074 = (b : ℚ) / den / 2 ^ 1074 ↔ a = b := by
    rw [div_left_inj' hunit.ne', div_left_inj' hpos.ne', Nat.cast_inj]
  obtain ⟨⟨hup, hup'⟩, hdown⟩ := rankOf_midpoints num hden
  rw [ofQuotient, ofRank]
  by_cases hrank : rankOf num den ≤ infinityRank
  · simp only [Nat.min_eq_left hrank]
    refine isNearest_signed _ (fun _ => ?_) fun r hr => ?_
    · rw [double, sum, hle, heq]
      exact ⟨hup, hup'⟩
    · rw [double, sum, hle, heq]
      exact hdown r hr
  · rw [Nat.not_le] at hrank
    simp only [Nat.min_eq_right hrank.le]
    refine isNearest_signed _ (fun h => absurd h (lt_irrefl _)) fun r hr => ?_
    -- the quotient lies beyond the midpoint below its own rank, which is above infinity
    obtain ⟨s, hs⟩ : ∃ s, s + 1 = rankOf num den := ⟨rankOf num den - 1, by omega⟩
    have hmid := (hdown s hs).1
    rw [← hle, ← sum, ← double] at hmid
    have hr' : magnitude r < magnitude s := magnitude_strictMono (by omega)
    have hs' : magnitude infinityRank < magnitude (rankOf num den) := magnitude_strictMono hrank
    have hlt := (add_lt_add hr' hs').trans_le hmid
    exact ⟨hlt.le, fun h => absurd h hlt.ne⟩

theorem isNearest_zero (h : 2 * q ≤ magnitude 1) : IsNearest q (ofRank false 0) :=
  isNearest_signed (Nat.zero_le _)
    (fun _ => by rw [magnitude_zero, zero_add]; exact ⟨h, fun _ => rfl⟩)
    fun r hr => absurd hr (Nat.succ_ne_zero r)

theorem isNearest_infinity (h : 2 ^ 1024 ≤ q) : IsNearest q (ofRank false infinityRank) := by
  refine isNearest_signed le_rfl (fun h => absurd h (lt_irrefl _)) fun r hr => ?_
  have hr' : magnitude r < magnitude infinityRank := magnitude_strictMono (by omega)
  have hlt : magnitude r + magnitude infinityRank < 2 * q := by
    rw [magnitude_infinityRank] at hr' ⊢
    rw [two_mul]
    exact add_lt_add_of_lt_of_le (hr'.trans_le h) h
  exact ⟨hlt.le, fun h => absurd h hlt.ne⟩

end Binary64

/-! ### Decimals -/

namespace Decimal

open Binary64

/-- The exact **value** of a decimal but for its sign. -/
def value (d : Decimal) : ℚ := d.coefficient * 10 ^ d.exponent

private theorem two_pow_le_ten_pow {m n : Nat} (h : m ≤ 3 * n) : (2 : ℚ) ^ m ≤ 10 ^ n :=
  calc (2 : ℚ) ^ m ≤ 2 ^ (3 * n) := pow_le_pow_right₀ (by norm_num) h
    _ = (2 ^ 3) ^ n := pow_mul 2 3 n
    _ ≤ 10 ^ n := pow_le_pow_left₀ (by norm_num) (by norm_num) n

/-- A decimal with so large an exponent is beyond the largest finite magnitude. -/
private theorem le_value {d : Decimal} (h0 : d.coefficient ≠ 0)
    (h : overflowExponent < d.exponent) : 2 ^ 1024 ≤ d.value := by
  have hone : (1 : ℚ) ≤ d.coefficient := by
    exact_mod_cast Nat.one_le_iff_ne_zero.mpr h0
  calc (2 : ℚ) ^ 1024 ≤ 10 ^ 400 := two_pow_le_ten_pow (by decide)
    _ = 10 ^ overflowExponent := (zpow_natCast 10 400).symm
    _ ≤ 10 ^ d.exponent := zpow_le_zpow_right₀ (by norm_num) h.le
    _ ≤ d.value := le_mul_of_one_le_left (by positivity) hone

private theorem coefficient_le (n : Nat) : (n : ℚ) ≤ 10 ^ (Nat.log2 n / 3 + 1) :=
  calc (n : ℚ) ≤ 2 ^ (Nat.log2 n + 1) := by exact_mod_cast Nat.lt_log2_self.le
    _ ≤ 10 ^ (Nat.log2 n / 3 + 1) := two_pow_le_ten_pow (by omega)

/-- A decimal with so small an exponent is below half of the least positive magnitude. -/
private theorem value_le {d : Decimal}
    (h : d.exponent + (Nat.log2 d.coefficient / 3 + 1 : Nat) < underflowExponent) :
    2 * d.value ≤ magnitude 1 := by
  have hvalue : d.value ≤ 10 ^ underflowExponent :=
    calc d.value ≤ 10 ^ (Nat.log2 d.coefficient / 3 + 1) * 10 ^ d.exponent :=
          mul_le_mul_of_nonneg_right (coefficient_le _) (by positivity)
      _ = 10 ^ (d.exponent + (Nat.log2 d.coefficient / 3 + 1 : Nat)) := by
          rw [add_comm d.exponent, zpow_add₀ (by norm_num), zpow_natCast]
      _ ≤ 10 ^ underflowExponent := zpow_le_zpow_right₀ (by norm_num) h.le
  have hunits : units 1 = 1 := by decide
  have hten : (10 : ℚ) ^ underflowExponent = 1 / 10 ^ 400 := by
    rw [one_div]
    exact zpow_neg 10 (400 : Nat)
  rw [hten, le_div_iff₀ (by positivity)] at hvalue
  rw [magnitude, hunits, Nat.cast_one, le_div_iff₀ (by positivity)]
  have hnonneg : 0 ≤ d.value := by
    rw [value]
    positivity
  calc 2 * d.value * 2 ^ 1074 = d.value * 2 ^ 1075 := by
        rw [pow_succ' 2 1074, mul_comm 2 d.value, mul_assoc]
    _ ≤ d.value * 10 ^ 400 :=
        mul_le_mul_of_nonneg_left (two_pow_le_ten_pow (by decide)) hnonneg
    _ ≤ 1 := hvalue

/-- A decimal is rounded to the number nearest to its value. -/
theorem isNearest_nearest {d : Decimal} (h : d.negative = false) : IsNearest d.value d.nearest := by
  have hunit : (2 : ℚ) ^ 1074 ≠ 0 := pow_ne_zero _ two_ne_zero
  rw [nearest, h]
  split
  · rename_i h0
    refine isNearest_zero ?_
    rw [value, h0, Nat.cast_zero, zero_mul, mul_zero, ← magnitude_zero]
    exact (magnitude_strictMono Nat.zero_lt_one).le
  rename_i h0
  split
  · exact isNearest_infinity (le_value h0 ‹_›)
  split
  · exact isNearest_zero (value_le ‹_›)
  split
  · rename_i hsign
    obtain ⟨n, hn⟩ := Int.eq_ofNat_of_zero_le hsign
    have hvalue : d.value = ((d.coefficient * powerOfTen n * unitsOfOne : Nat) : ℚ) / (1 : Nat) /
        2 ^ 1074 := by
      rw [Nat.cast_mul, Nat.cast_mul, unitsOfOne_eq, powerOfTen_eq, Nat.cast_one, div_one,
        mul_div_cancel_right₀ _ hunit, value, hn]
      rfl
    rw [hvalue, hn]
    exact isNearest_ofQuotient _ Nat.one_pos
  · rename_i hsign
    obtain ⟨n, hn⟩ := Int.eq_ofNat_of_zero_le (Int.neg_nonneg_of_nonpos (Int.not_le.mp hsign).le)
    have hvalue : d.value = ((d.coefficient * unitsOfOne : Nat) : ℚ) / (powerOfTen n : Nat) /
        2 ^ 1074 := by
      rw [Nat.cast_mul, unitsOfOne_eq, powerOfTen_eq, div_right_comm,
        mul_div_cancel_right₀ _ hunit, value, ← neg_neg d.exponent, hn, zpow_neg, zpow_natCast,
        div_eq_mul_inv]
    rw [hvalue, hn]
    exact isNearest_ofQuotient _ (Nat.pow_pos (by decide))

end Decimal

end Timekeeper
