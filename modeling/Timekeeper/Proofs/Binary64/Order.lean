import Timekeeper.Proofs.Binary64.Nearest

/-!
# Exact values and their order

The **value** of a number is the exact rational number that it stands for. A **duration** is a
finite number that is not below zero, and on durations the order of binary64 numbers is the
order of the values (`IsDuration.le_iff`).

Whatever is rounded is rounded to the nearest number, and three facts about that carry the rest:

* rounding is **monotone** (`IsNearest.value_le_value`);
* what is a number already is not rounded (`IsDuration.isNearest_value`);
* the result is finite exactly below the **overflow threshold**, half way between the largest
  finite magnitude and the power of two behind it (`IsNearest.isFinite_iff`).

Products, quotients and sums of durations are the exact ones, rounded once. Of sums that is so
but for the sign of a zero.
-/

namespace Timekeeper

namespace Binary64

variable {x y z : Binary64} {p q : ℚ}

/-- The exact **value** of a number. Infinity counts as the power of two behind the largest finite
magnitude, and what is not a number as zero. -/
def value : Binary64 → ℚ
  | nan => 0
  | signed negative rank _ => if negative then -magnitude rank else magnitude rank

/-- A **duration**: a finite number that is not below zero. Both zeros are durations. -/
def IsDuration (x : Binary64) : Prop := x.isFinite = true ∧ zero.le x = true

theorem magnitude_nonneg (rank : Nat) : 0 ≤ magnitude rank :=
  magnitude_zero.symm.le.trans (magnitude_strictMono.monotone (Nat.zero_le rank))

/-- The magnitude of a rank that stands for a whole number. -/
theorem magnitude_eq {rank k : Nat} (h : units rank = k * unitsOfOne) : magnitude rank = k := by
  rw [magnitude, h, Nat.cast_mul, unitsOfOne_eq, mul_div_cancel_right₀ _ (by positivity)]

theorem value_one : one.value = 1 := by
  change magnitude 0x3ff0000000000000 = 1
  rw [magnitude_eq (k := 1) (by decide +kernel), Nat.cast_one]

/-! ### Order -/

theorem lt_asymm (h : x.lt y = true) : y.lt x = false := by
  cases x with
  | nan => contradiction
  | signed s r hr =>
    cases y with
    | nan => contradiction
    | signed t u hu =>
      exact decide_eq_false (Int.lt_asymm (of_decide_eq_true h))

theorem le_of_lt (h : x.lt y = true) : x.le y = true := by
  cases x with
  | nan => contradiction
  | signed s r hr =>
    cases y with
    | nan => contradiction
    | signed t u hu => exact decide_eq_true (Int.le_of_lt (of_decide_eq_true h))

theorem le_trans (hxy : x.le y = true) (hyz : y.le z = true) : x.le z = true := by
  cases x with
  | nan => contradiction
  | signed s r hr =>
    cases y with
    | nan => contradiction
    | signed t u hu =>
      cases z with
      | nan => contradiction
      | signed v w hw =>
        exact decide_eq_true (Int.le_trans (of_decide_eq_true hxy) (of_decide_eq_true hyz))

/-- What is not below a number above zero is above zero. -/
theorem isPositive_of_le (h : x.le y = true) (hx : x.isPositive = true) : y.isPositive = true := by
  cases x with
  | nan => contradiction
  | signed s r hr =>
    cases y with
    | nan => contradiction
    | signed t u hu =>
      exact decide_eq_true (Int.lt_of_lt_of_le (of_decide_eq_true hx) (of_decide_eq_true h))

/-- What is not below zero equals zero exactly if it is not above zero. -/
theorem eq_zero_iff_not_isPositive (h : zero.le x = true) :
    x.eq zero = true ↔ x.isPositive = false := by
  cases x with
  | nan => contradiction
  | signed s r hr =>
    have hle : place false 0 ≤ place s r := of_decide_eq_true h
    change (place s r == place false 0) = true ↔ decide (place false 0 < place s r) = false
    rw [beq_iff_eq, decide_eq_false_iff_not]
    omega

/-! ### Durations -/

/-- A finite number above zero is a duration. -/
theorem isDuration_of_isPositive (hfinite : x.isFinite = true) (hpos : x.isPositive = true) :
    IsDuration x :=
  ⟨hfinite, le_of_lt hpos⟩

/-- Of negative numbers only the zero is a duration. -/
theorem isDuration_iff : IsDuration x ↔
    ∃ negative rank hrank, x = signed negative rank hrank ∧ rank < infinityRank ∧
      (negative = true → rank = 0) := by
  constructor
  · rintro ⟨hfinite, hzero⟩
    cases x with
    | nan => contradiction
    | signed negative rank hrank =>
      refine ⟨negative, rank, hrank, rfl, of_decide_eq_true hfinite, fun hnegative => ?_⟩
      subst hnegative
      have hplace : (0 : Int) ≤ -(rank : Int) := of_decide_eq_true hzero
      omega
  · rintro ⟨negative, rank, hrank, rfl, hlt, hnegative⟩
    refine ⟨decide_eq_true hlt, decide_eq_true ?_⟩
    cases negative with
    | false => exact Int.natCast_nonneg rank
    | true =>
      obtain rfl : rank = 0 := hnegative rfl
      exact le_rfl

/-- The value of a duration is the magnitude of its rank, whatever the sign. -/
private theorem value_signed {negative : Bool} {rank : Nat} {hrank : rank ≤ infinityRank}
    (h : negative = true → rank = 0) : (signed negative rank hrank).value = magnitude rank := by
  cases negative with
  | false => rfl
  | true =>
    obtain rfl : rank = 0 := h rfl
    rw [value, if_pos rfl, magnitude_zero, neg_zero]

private theorem place_eq {negative : Bool} {rank : Nat} (h : negative = true → rank = 0) :
    place negative rank = rank := by
  cases negative with
  | false => rfl
  | true =>
    obtain rfl : rank = 0 := h rfl
    rfl

theorem IsDuration.value_nonneg (hx : IsDuration x) : 0 ≤ x.value := by
  obtain ⟨negative, rank, hrank, rfl, -, hnegative⟩ := isDuration_iff.mp hx
  rw [value_signed hnegative]
  exact magnitude_nonneg rank

/-- Durations are in the order of their values. -/
theorem IsDuration.le_iff (hx : IsDuration x) (hy : IsDuration y) :
    x.le y = true ↔ x.value ≤ y.value := by
  obtain ⟨s, r, hr, rfl, -, hs⟩ := isDuration_iff.mp hx
  obtain ⟨t, u, hu, rfl, -, ht⟩ := isDuration_iff.mp hy
  rw [value_signed hs, value_signed ht, magnitude_strictMono.le_iff_le, le, decide_eq_true_eq,
    place_eq hs, place_eq ht, Int.ofNat_le]

theorem IsDuration.lt_iff (hx : IsDuration x) (hy : IsDuration y) :
    x.lt y = true ↔ x.value < y.value := by
  obtain ⟨s, r, hr, rfl, -, hs⟩ := isDuration_iff.mp hx
  obtain ⟨t, u, hu, rfl, -, ht⟩ := isDuration_iff.mp hy
  rw [value_signed hs, value_signed ht, magnitude_strictMono.lt_iff_lt, lt, decide_eq_true_eq,
    place_eq hs, place_eq ht, Int.ofNat_lt]

theorem IsDuration.eq_iff (hx : IsDuration x) (hy : IsDuration y) :
    x.eq y = true ↔ x.value = y.value := by
  obtain ⟨s, r, hr, rfl, -, hs⟩ := isDuration_iff.mp hx
  obtain ⟨t, u, hu, rfl, -, ht⟩ := isDuration_iff.mp hy
  rw [value_signed hs, value_signed ht, magnitude_strictMono.injective.eq_iff, eq, place_eq hs,
    place_eq ht, beq_iff_eq, Int.ofNat_inj]

theorem value_zero : zero.value = 0 := magnitude_zero

theorem isDuration_zero : IsDuration zero := ⟨by decide, by decide⟩

/-- A duration equals zero when its value does. -/
theorem IsDuration.eq_zero_iff (hx : IsDuration x) : x.eq zero = true ↔ x.value = 0 := by
  rw [hx.eq_iff isDuration_zero, value_zero]

theorem IsDuration.isPositive_iff (hx : IsDuration x) : x.isPositive = true ↔ 0 < x.value := by
  rw [isPositive, isDuration_zero.lt_iff hx, value_zero]

/-- A duration of a value above zero has no minus. -/
theorem IsDuration.exists_rank (hx : IsDuration x) (hpos : 0 < x.value) :
    ∃ (rank : Nat) (hrank : rank ≤ infinityRank), x = signed false rank hrank ∧
      rank < infinityRank ∧ 0 < rank := by
  obtain ⟨negative, rank, hrank, rfl, hlt, hnegative⟩ := isDuration_iff.mp hx
  rw [value_signed hnegative, ← magnitude_zero, magnitude_strictMono.lt_iff_lt] at hpos
  obtain rfl : negative = false := by
    cases negative with
    | false => rfl
    | true =>
      have := hnegative rfl
      omega
  exact ⟨rank, hrank, rfl, hlt, hpos⟩

/-- A duration of the value zero is one of the two zeros. -/
theorem IsDuration.eq_ofRank_zero (hx : IsDuration x) (hzero : x.value = 0) :
    ∃ negative, x = ofRank negative 0 := by
  obtain ⟨negative, rank, hrank, rfl, -, hnegative⟩ := isDuration_iff.mp hx
  rw [value_signed hnegative, ← magnitude_zero] at hzero
  obtain rfl : rank = 0 := magnitude_strictMono.injective hzero
  exact ⟨negative, rfl⟩

theorem IsDuration.le_infinity (hx : IsDuration x) : x.le infinity = true := by
  obtain ⟨negative, rank, hrank, rfl, -, hnegative⟩ := isDuration_iff.mp hx
  have hle : place negative rank ≤ (infinityRank : Int) := by
    rw [place_eq hnegative]
    exact Int.ofNat_le.mpr hrank
  exact decide_eq_true hle

/-- What is not below zero is a duration or infinite. -/
theorem isDuration_or_eq_infinity (h : zero.le x = true) : IsDuration x ∨ x = infinity := by
  by_cases hfinite : x.isFinite = true
  · exact .inl ⟨hfinite, h⟩
  right
  cases x with
  | nan => contradiction
  | signed negative rank hrank =>
    obtain rfl : rank = infinityRank :=
      Nat.le_antisymm hrank (Nat.not_lt.mp fun hlt => hfinite (decide_eq_true hlt))
    cases negative with
    | false => rfl
    | true =>
      have hplace : (0 : Int) ≤ -(infinityRank : Int) := of_decide_eq_true h
      contradiction

/-! ### Rounding -/

/-- What is not nearer to the lower of two numbers lies above the middle between them. -/
private theorem add_le_of_abs_le {a b : ℚ} (hab : a < b) (h : |q - b| ≤ |q - a|) :
    a + b ≤ 2 * q := by
  obtain ⟨ha, -⟩ | ⟨ha, ha'⟩ := abs_cases (q - a) <;>
    obtain ⟨hb, hb'⟩ | ⟨hb, -⟩ := abs_cases (q - b) <;> linarith

/-- What is not nearer to the higher of two numbers lies below the middle between them. -/
private theorem le_add_of_abs_le {a b : ℚ} (hab : a < b) (h : |q - a| ≤ |q - b|) :
    2 * q ≤ a + b := by
  obtain ⟨ha, -⟩ | ⟨ha, ha'⟩ := abs_cases (q - a) <;>
    obtain ⟨hb, hb'⟩ | ⟨hb, -⟩ := abs_cases (q - b) <;> linarith

theorem IsNearest.exists_rank (h : IsNearest q x) :
    ∃ (rank : Nat) (hrank : rank ≤ infinityRank), x = signed false rank hrank := by
  cases x with
  | nan => exact h.elim
  | signed negative rank hrank =>
    obtain ⟨rfl, -⟩ := h
    exact ⟨rank, hrank, rfl⟩

theorem IsNearest.zero_le (h : IsNearest q x) : zero.le x = true := by
  obtain ⟨rank, hrank, rfl⟩ := h.exists_rank
  exact decide_eq_true (Int.natCast_nonneg rank)

/-- Rounding is **monotone**. -/
theorem IsNearest.value_le_value (hx : IsNearest p x) (hy : IsNearest q y) (h : p ≤ q) :
    x.value ≤ y.value := by
  obtain ⟨r, hr, rfl⟩ := hx.exists_rank
  obtain ⟨u, hu, rfl⟩ := hy.exists_rank
  by_contra hlt
  have hlt : magnitude u < magnitude r := not_le.mp hlt
  -- each of the two is nearer to its own quotient, so the quotients are in the other order
  have hp : magnitude u + magnitude r ≤ 2 * p := add_le_of_abs_le hlt (hx.2 u hu).1
  have hq : 2 * q ≤ magnitude u + magnitude r := le_add_of_abs_le hlt (hy.2 r hr).1
  obtain rfl : p = q := le_antisymm h (by linarith)
  have hsame := congrArg value (hx.unique hy)
  exact hlt.ne' hsame

theorem IsNearest.le_of_le (hx : IsNearest p x) (hy : IsNearest q y) (h : p ≤ q) :
    x.le y = true := by
  have hvalue := hx.value_le_value hy h
  obtain ⟨r, hr, rfl⟩ := hx.exists_rank
  obtain ⟨u, hu, rfl⟩ := hy.exists_rank
  have hrank : r ≤ u := magnitude_strictMono.le_iff_le.mp hvalue
  exact decide_eq_true (Int.ofNat_le.mpr hrank)

/-- What is rounded does not come out above an even rank exactly if it does not lie above the middle
between that rank and the next one. -/
theorem IsNearest.value_le_magnitude_iff (h : IsNearest q x) {rank : Nat} (heven : rank % 2 = 0)
    (hrank : rank < infinityRank) :
    x.value ≤ magnitude rank ↔ 2 * q ≤ magnitude rank + magnitude (rank + 1) := by
  obtain ⟨r, hr, rfl⟩ := h.exists_rank
  change magnitude r ≤ magnitude rank ↔ _
  rw [magnitude_strictMono.le_iff_le]
  constructor
  · intro hle
    have hlt : magnitude r < magnitude (rank + 1) := magnitude_strictMono (Nat.lt_succ_of_le hle)
    have hmid := le_add_of_abs_le hlt (h.2 (rank + 1) hrank).1
    have hbelow := magnitude_strictMono.monotone hle
    linarith
  · intro hq
    by_contra hlt
    have hlt : rank < r := Nat.not_le.mp hlt
    have hmid := add_le_of_abs_le (magnitude_strictMono hlt) (h.2 rank hrank.le).1
    -- so the next rank is the nearest, and on the middle the two are equally near
    have hnext : magnitude r ≤ magnitude (rank + 1) := by linarith
    obtain rfl : r = rank + 1 :=
      Nat.le_antisymm (magnitude_strictMono.le_iff_le.mp hnext) hlt
    have htie : |q - magnitude rank| = |q - magnitude (rank + 1)| := by
      have hstep := magnitude_strictMono hlt
      rw [abs_of_nonneg (by linarith), abs_of_nonpos (by linarith)]
      linarith
    have hodd := (h.2 rank hrank.le).2 htie hlt.ne
    omega

theorem isNearest_magnitude {rank : Nat} (hrank : rank ≤ infinityRank) :
    IsNearest (magnitude rank) (signed false rank hrank) := by
  refine ⟨rfl, fun other _ => ⟨by simp, fun h hne => ?_⟩⟩
  rw [sub_self, abs_zero, abs_eq_zero, sub_eq_zero] at h
  exact absurd (magnitude_strictMono.injective h.symm) hne

/-- What is a number already is not rounded. -/
theorem IsDuration.isNearest_value (hx : IsDuration x) (hpos : 0 < x.value) :
    IsNearest x.value x := by
  obtain ⟨rank, hrank, rfl, -, -⟩ := hx.exists_rank hpos
  exact isNearest_magnitude hrank

/-- A duration is not above what is rounded from no less than its value. -/
theorem IsDuration.le_of_isNearest (hx : IsDuration x) (hy : IsNearest q y) (h : x.value ≤ q) :
    x.le y = true := by
  obtain hpos | hzero := hx.value_nonneg.lt_or_eq
  · exact (hx.isNearest_value hpos).le_of_le hy h
  · have hle : x.le zero = true :=
      (hx.le_iff isDuration_zero).mpr (hzero.symm.le.trans value_zero.ge)
    exact le_trans hle hy.zero_le

/-- The **overflow threshold**: half way between the largest finite magnitude and `2 ^ 1024`. -/
def overflowThreshold : ℚ := 2 ^ 1024 - 2 ^ 970

/-- The largest finite rank, an odd one, lies a step of its binade below infinity. -/
private theorem magnitude_last : magnitude (infinityRank - 1) = 2 ^ 1024 - 2 ^ 971 := by
  have hlast : infinityRank - 1 + 1 = infinityRank := by decide
  have hbinade : (infinityRank - 1) / ranksPerBinade - 1 = 2045 := by decide
  have hstep := units_succ (infinityRank - 1)
  rw [hlast, hbinade] at hstep
  have hcast : magnitude infinityRank = magnitude (infinityRank - 1) + 2 ^ 2045 / 2 ^ 1074 := by
    rw [magnitude, magnitude, hstep, Nat.cast_add, Nat.cast_pow, Nat.cast_ofNat, add_div]
  have hquotient : (2 : ℚ) ^ 2045 / 2 ^ 1074 = 2 ^ 971 := by
    rw [div_eq_iff (by positivity), ← pow_add]
  rw [hquotient, magnitude_infinityRank] at hcast
  rw [hcast, add_sub_cancel_right]

/-- Rounding gives a finite number exactly below the overflow threshold. -/
theorem IsNearest.isFinite_iff (h : IsNearest q x) : x.isFinite = true ↔ q < overflowThreshold := by
  obtain ⟨rank, hrank, rfl⟩ := h.exists_rank
  have hlast := magnitude_last
  have hinfinity := magnitude_infinityRank
  have hhalf : (2 : ℚ) ^ 971 = 2 * 2 ^ 970 := pow_succ' 2 970
  have hpos : (0 : ℚ) < 2 ^ 970 := by positivity
  rw [hhalf] at hlast
  clear hhalf
  rw [overflowThreshold]
  generalize (2 : ℚ) ^ 1024 = top at *
  generalize (2 : ℚ) ^ 970 = half at *
  have hodd : (infinityRank - 1) % 2 = 1 := by decide
  constructor
  · intro hfinite
    have hlt : rank < infinityRank := of_decide_eq_true hfinite
    have hle : magnitude rank ≤ top - 2 * half := by
      rw [← hlast]
      exact magnitude_strictMono.monotone (Nat.le_sub_one_of_lt hlt)
    have hmid : 2 * q ≤ magnitude rank + magnitude infinityRank :=
      le_add_of_abs_le (magnitude_strictMono hlt) (h.2 infinityRank le_rfl).1
    rw [hinfinity] at hmid
    by_contra hq
    -- at the threshold infinity is as near as the largest finite rank, which is odd
    have hsame : magnitude rank = magnitude (infinityRank - 1) := by rw [hlast]; linarith
    obtain rfl := magnitude_strictMono.injective hsame
    have htie : |q - magnitude infinityRank| = |q - magnitude (infinityRank - 1)| := by
      rw [hinfinity, hlast, abs_of_nonpos (by linarith), abs_of_nonneg (by linarith)]
      linarith
    have heven := (h.2 infinityRank le_rfl).2 htie hlt.ne'
    omega
  · intro hq
    by_contra hinfinite
    obtain rfl : rank = infinityRank :=
      Nat.le_antisymm hrank (Nat.not_lt.mp fun hlt => hinfinite (decide_eq_true hlt))
    have hnear := (h.2 (infinityRank - 1) (Nat.sub_le _ _)).1
    have hmid := add_le_of_abs_le (magnitude_strictMono (by decide)) hnear
    rw [hinfinity, hlast] at hmid
    linarith

/-- The value of a duration lies below the overflow threshold. -/
theorem IsDuration.value_lt (hx : IsDuration x) : x.value < overflowThreshold := by
  obtain hpos | hzero := hx.value_nonneg.lt_or_eq
  · exact (hx.isNearest_value hpos).isFinite_iff.mp hx.1
  · rw [← hzero, overflowThreshold, sub_pos]
    exact pow_lt_pow_right₀ one_lt_two (by decide)

/-! ### Arithmetic -/

private theorem units_pos {rank : Nat} (h : 0 < rank) : 0 < units rank :=
  (Nat.zero_le _).trans_lt (units_strictMono h)

theorem isNearest_ofNat (n : Nat) : IsNearest n (ofNat n) := by
  have hvalue : ((n * unitsOfOne : Nat) : ℚ) / (1 : Nat) / 2 ^ 1074 = n := by
    rw [Nat.cast_mul, unitsOfOne_eq, Nat.cast_one, div_one,
      mul_div_cancel_right₀ _ (pow_ne_zero _ two_ne_zero)]
  have hnearest := isNearest_ofQuotient (n * unitsOfOne) Nat.one_pos
  rwa [hvalue] at hnearest

/-- A natural number that a finite rank stands for is that number. -/
theorem isDuration_ofNat (n rank : Nat) (h : units rank = n * unitsOfOne)
    (hrank : rank < infinityRank) : IsDuration (ofNat n) ∧ (ofNat n).value = n := by
  have hmagnitude : magnitude rank = n := magnitude_eq h
  have hnearest : IsNearest n (signed false rank hrank.le) :=
    hmagnitude ▸ isNearest_magnitude hrank.le
  rw [(isNearest_ofNat n).unique hnearest]
  refine ⟨isDuration_iff.mpr ⟨false, rank, hrank.le, rfl, hrank, fun h => ?_⟩, hmagnitude⟩
  contradiction

theorem isDuration_ofNat_thousand : IsDuration (ofNat 1000) :=
  (isDuration_ofNat 1000 0x408f400000000000 (by decide +kernel) (by decide)).1

theorem value_ofNat_thousand : (ofNat 1000).value = (1000 : Nat) :=
  (isDuration_ofNat 1000 0x408f400000000000 (by decide +kernel) (by decide)).2

theorem isDuration_ofNat_million : IsDuration (ofNat 1000000) :=
  (isDuration_ofNat 1000000 0x412e848000000000 (by decide +kernel) (by decide)).1

theorem value_ofNat_million : (ofNat 1000000).value = (1000000 : Nat) :=
  (isDuration_ofNat 1000000 0x412e848000000000 (by decide +kernel) (by decide)).2

/-- A product of durations is the exact one rounded. -/
theorem IsDuration.isNearest_mul (hx : IsDuration x) (hy : IsDuration y) (hxpos : 0 < x.value)
    (hypos : 0 < y.value) : IsNearest (x.value * y.value) (x * y) := by
  obtain ⟨r, hr, rfl, hrlt, -⟩ := hx.exists_rank hxpos
  obtain ⟨u, hu, rfl, hult, -⟩ := hy.exists_rank hypos
  have hmul : signed false r hr * signed false u hu =
      ofQuotient false (units r * units u) unitsOfOne := by
    change mul _ _ = _
    rw [mul, if_neg (by simp [hrlt.ne, hult.ne])]
    rfl
  have hvalue : ((units r * units u : Nat) : ℚ) / unitsOfOne / 2 ^ 1074 =
      magnitude r * magnitude u := by
    rw [Nat.cast_mul, unitsOfOne_eq, magnitude, magnitude, div_mul_div_comm, div_div]
  have hnearest := isNearest_ofQuotient (units r * units u) unitsOfOne_pos
  rw [hvalue] at hnearest
  rw [hmul]
  exact hnearest

/-- A quotient of durations is the exact one rounded. -/
theorem IsDuration.isNearest_div (hx : IsDuration x) (hy : IsDuration y) (hxpos : 0 < x.value)
    (hypos : 0 < y.value) : IsNearest (x.value / y.value) (x / y) := by
  obtain ⟨r, hr, rfl, hrlt, -⟩ := hx.exists_rank hxpos
  obtain ⟨u, hu, rfl, hult, hupos⟩ := hy.exists_rank hypos
  have hdiv : signed false r hr / signed false u hu =
      ofQuotient false (units r * unitsOfOne) (units u) := by
    change div _ _ = _
    rw [div, if_neg hrlt.ne, if_neg hult.ne, if_neg hupos.ne']
    rfl
  have hvalue : ((units r * unitsOfOne : Nat) : ℚ) / units u / 2 ^ 1074 =
      magnitude r / magnitude u := by
    have hunit : (2 : ℚ) ^ 1074 ≠ 0 := pow_ne_zero _ two_ne_zero
    rw [Nat.cast_mul, unitsOfOne_eq, magnitude, magnitude, div_div_div_cancel_right₀ hunit,
      div_right_comm, mul_div_cancel_right₀ _ hunit]
  have hnearest := isNearest_ofQuotient (units r * unitsOfOne) (units_pos hupos)
  rw [hvalue] at hnearest
  rw [hdiv]
  exact hnearest

/-- A sum of durations is the exact one rounded, or a zero. -/
theorem IsDuration.add (hx : IsDuration x) (hy : IsDuration y) :
    IsNearest (x.value + y.value) (x + y) ∨
      x.value + y.value = 0 ∧ IsDuration (x + y) ∧ (x + y).value = 0 := by
  obtain ⟨s, r, hr, rfl, hrlt, hs⟩ := isDuration_iff.mp hx
  obtain ⟨t, u, hu, rfl, hult, ht⟩ := isDuration_iff.mp hy
  have hunits {negative : Bool} {rank : Nat} (h : negative = true → rank = 0) :
      signedUnits negative rank = units rank := by
    cases negative with
    | false => rfl
    | true =>
      obtain rfl : rank = 0 := h rfl
      decide
  have hadd : signed s r hr + signed t u hu =
      ofUnits (s && t) ((units r + units u : Nat) : Int) := by
    change add _ _ = _
    rw [add, if_neg hrlt.ne, if_neg hult.ne, hunits hs, hunits ht, Nat.cast_add]
  have hvalue : magnitude r + magnitude u =
      ((units r + units u : Nat) : ℚ) / (1 : Nat) / 2 ^ 1074 := by
    rw [magnitude, magnitude, Nat.cast_one, div_one, Nat.cast_add, add_div]
  rw [value_signed hs, value_signed ht, hadd, hvalue, ofUnits]
  by_cases hzero : units r + units u = 0
  · right
    rw [hzero, if_pos (Int.natCast_zero), Nat.cast_zero, zero_div, zero_div]
    cases s && t <;> exact ⟨rfl, ⟨rfl, rfl⟩, by simp [ofRank, value, magnitude_zero]⟩
  · left
    rw [if_neg (by exact_mod_cast hzero), Int.natAbs_natCast,
      decide_eq_false (Int.not_lt.mpr (Int.natCast_nonneg _))]
    exact isNearest_ofQuotient _ Nat.one_pos

end Binary64

end Timekeeper
