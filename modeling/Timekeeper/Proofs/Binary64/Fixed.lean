import Timekeeper.Binary64.Fixed
import Timekeeper.Proofs.Binary64.Literal
import Timekeeper.Proofs.Binary64.Order

/-!
# Numbers with a fixed count of places

A number that is written with a fixed count of decimal places is its value, **rounded** to a whole
number of units of the last place (`IsNearest.exists_fixed`). Like rounding to a binary64 number
this rounding is monotone (`IsRounded.le_of_le`), and it is off by half a unit at most. The text
that is written is a decimal literal, and reading it yields these units of the last place
(`decimalRead?_pointed`).
-/

namespace Timekeeper

/-! ### Rounding to whole numbers -/

/-- A whole number is a quotient **rounded** when the two differ by one half at most, and if they
differ by as much the whole number is even. -/
def IsRounded (q : ℚ) (n : Nat) : Prop := 2 * |q - n| ≤ 1 ∧ (2 * |q - n| = 1 → n % 2 = 0)

theorem isRounded_natCast (n : Nat) : IsRounded n n := by
  rw [IsRounded, sub_self, abs_zero, mul_zero]
  exact ⟨zero_le_one, fun h => absurd h zero_ne_one⟩

theorem isRounded_roundDiv (n : Nat) {d : Nat} (hd : 0 < d) :
    IsRounded ((n : ℚ) / d) (roundDiv n d) := by
  obtain ⟨⟨hup, hup'⟩, hdown, hdown'⟩ := roundDiv_bounds n hd
  generalize roundDiv n d = r at *
  have hpos : (0 : ℚ) < d := by exact_mod_cast hd
  have hmul : (n : ℚ) / d * d = n := div_mul_cancel₀ _ hpos.ne'
  have hupQ : 2 * (n : ℚ) ≤ (2 * r + 1) * d := by exact_mod_cast hup
  have hdownQ : 2 * (r : ℚ) * d ≤ 2 * n + d := by exact_mod_cast hdown
  obtain ⟨habs, -⟩ | ⟨habs, -⟩ := abs_cases ((n : ℚ) / d - r)
  · rw [IsRounded, habs]
    refine ⟨le_of_mul_le_mul_right (by linarith) hpos, fun h => hup' ?_⟩
    have heq : 2 * (n : ℚ) = (2 * r + 1) * d := by
      rw [← hmul, ← h]
      ring
    exact_mod_cast heq
  · rw [IsRounded, habs]
    refine ⟨le_of_mul_le_mul_right (by linarith) hpos, fun h => hdown' ?_⟩
    have heq : 2 * (r : ℚ) * d = 2 * n + d := by
      calc 2 * (r : ℚ) * d = 2 * (n / d * d) + (2 * -(n / d - r)) * d := by ring
        _ = 2 * n + d := by rw [hmul, h, one_mul]
    exact_mod_cast heq

/-- Rounding to whole numbers is monotone. -/
theorem IsRounded.le_of_le {p q : ℚ} {m n : Nat} (hp : IsRounded p m) (hq : IsRounded q n)
    (h : p ≤ q) : m ≤ n := by
  by_contra hlt
  have hstep : (n : ℚ) + 1 ≤ m := by exact_mod_cast Nat.not_le.mp hlt
  have hp' := neg_abs_le (p - m)
  have hq' := le_abs_self (q - n)
  -- both are in the middle between two neighbours, and one of these is odd
  have hm : 2 * |p - m| = 1 := le_antisymm hp.1 (by linarith [hq.1])
  have hn : 2 * |q - n| = 1 := le_antisymm hq.1 (by linarith)
  have hsucc : (m : ℚ) = n + 1 := le_antisymm (by linarith) hstep
  have hsucc' : m = n + 1 := by exact_mod_cast hsucc
  have hmeven := hp.2 hm
  have hneven := hq.2 hn
  omega

/-- Counted in units of the last place, rounding is off by half a unit. -/
theorem IsRounded.abs_sub_le {q scale : ℚ} {n : Nat} (hscale : 0 < scale)
    (h : IsRounded (q * scale) n) : |n / scale - q| ≤ 1 / scale / 2 := by
  have hsplit : n / scale - q = (n - q * scale) / scale := by
    rw [sub_div, mul_div_cancel_right₀ _ hscale.ne']
  have hhalf : |n - q * scale| ≤ 1 / 2 := by
    rw [abs_sub_comm]
    linarith [h.1]
  calc |n / scale - q| = |n - q * scale| / scale := by rw [hsplit, abs_div, abs_of_pos hscale]
    _ ≤ 1 / 2 / scale := div_le_div_of_nonneg_right hhalf hscale.le
    _ = 1 / scale / 2 := div_right_comm 1 2 scale

namespace Binary64

/-! ### Digits -/

/-- What rounding to the nearest number gives below the overflow threshold is written as its value,
rounded to units of the last place. -/
theorem IsNearest.exists_fixed {q : ℚ} {x : Binary64} (h : IsNearest q x)
    (hq : q < overflowThreshold) (places : Nat) :
    ∃ n, x.fixed places = pointed places n ∧ IsRounded (x.value * 10 ^ places) n := by
  have hfinite : x.isFinite = true := h.isFinite_iff.mpr hq
  obtain ⟨rank, hrank, rfl⟩ := h.exists_rank
  have hlt : rank < infinityRank := of_decide_eq_true hfinite
  refine ⟨scaledDigits places rank, ?_, ?_⟩
  · rw [fixed, if_neg hlt.ne]
    rfl
  · have hrounded := isRounded_roundDiv (units rank * powerOfTen places) unitsOfOne_pos
    rw [Nat.cast_mul, unitsOfOne_eq, powerOfTen_eq, mul_div_right_comm] at hrounded
    exact hrounded

private theorem isDigit_of_mem_digits {n : Nat} {c : Char} (h : c ∈ digits n) : c.isDigit = true :=
  Nat.isDigit_of_mem_toDigits (by decide) (by decide) h

private theorem ofDigits_digits (n : Nat) : Decimal.ofDigits (digits n) = n :=
  (Decimal.ofDigits_eq _).trans Nat.ofDigitChars_ten_toDigits

/-- The digits behind the point, filled up with zeros to the count of places. -/
private def fraction (places n : Nat) : List Char :=
  List.replicate (places - (digits (n % powerOfTen places)).length) '0' ++
    digits (n % powerOfTen places)

private theorem length_fraction {places : Nat} (hplaces : 0 < places) (n : Nat) :
    (fraction places n).length = places := by
  have hlt : n % powerOfTen places < 10 ^ places := Nat.mod_lt _ (Nat.pow_pos (by decide))
  have hlength : (digits (n % powerOfTen places)).length ≤ places :=
    (Nat.length_toDigits_le_iff (by decide) hplaces).mpr hlt
  rw [fraction, List.length_append, List.length_replicate]
  omega

private theorem isDigit_of_mem_fraction {places n : Nat} {c : Char} (h : c ∈ fraction places n) :
    c.isDigit = true := by
  obtain hzero | hdigit := List.mem_append.mp h
  · rw [List.eq_of_mem_replicate hzero]
    rfl
  · exact isDigit_of_mem_digits hdigit

private theorem ofDigits_fraction (places n : Nat) :
    Decimal.ofDigits (fraction places n) = n % powerOfTen places := by
  rw [fraction, Decimal.ofDigits_append, ofDigits_digits, Decimal.ofDigits_eq,
    Nat.ofDigitChars_replicate_zero, Nat.mul_zero, Nat.zero_mul, Nat.zero_add]

private theorem isDigits_of_forall {x : List Char} (hne : x ≠ [])
    (h : ∀ c ∈ x, c.isDigit = true) : Decimal.isDigits x = true := by
  rw [Decimal.isDigits, Bool.and_eq_true]
  exact ⟨by simpa using hne, List.all_eq_true.mpr h⟩

/-- A count of units of the last place is read back from its digits. -/
theorem decimalRead?_pointed {places : Nat} (hplaces : 0 < places) (n : Nat) :
    Decimal.read? (pointed places n) = some ⟨false, n, -(places : Int)⟩ := by
  have hlength := length_fraction hplaces n
  let whole : Decimal.Digits := ⟨digits (n / powerOfTen places),
    isDigits_of_forall Nat.toDigits_ne_nil fun _ => isDigit_of_mem_digits⟩
  let behind : Decimal.Digits := ⟨fraction places n,
    isDigits_of_forall (List.ne_nil_of_length_pos (by omega)) fun _ => isDigit_of_mem_fraction⟩
  let literal : Decimal.Literal := ⟨whole, some behind, none⟩
  have hchars : literal.chars = pointed places n := by
    change digits (n / powerOfTen places) ++ ('.' :: fraction places n ++ []) = _
    rw [pointed, fraction]
    simp
  have hdecimal : literal.decimal = ⟨false, n, -(places : Int)⟩ := by
    have hcoefficient : Decimal.ofDigits (whole.chars ++ behind.chars) = n := by
      rw [Decimal.ofDigits_append, ofDigits_digits, ofDigits_fraction, hlength]
      exact Nat.div_add_mod' n (10 ^ places)
    have hexponent : (0 : Int) - behind.chars.length = -(places : Int) := by
      rw [hlength, Int.zero_sub]
    exact congrArg₂ (Decimal.mk false) hcoefficient hexponent
  rw [← hchars, literal.decimalRead?_chars, hdecimal]

theorem mem_pointed {places n : Nat} {c : Char} (h : c ∈ pointed places n) :
    c.isDigit = true ∨ c = '.' := by
  rw [pointed, List.append_assoc, ← fraction, List.mem_append, List.mem_append,
    List.mem_singleton] at h
  obtain (hwhole | hpoint) | hfraction := h
  · exact .inl (isDigit_of_mem_digits hwhole)
  · exact .inr hpoint
  · exact .inl (isDigit_of_mem_fraction hfraction)

/-- The characters that stand in numbers besides digits. -/
def marks : List Char := ['.', '-', 'N', 'a', 'i', 'n', 'f']

theorem mem_fixed {x : Binary64} {places : Nat} {c : Char} (h : c ∈ x.fixed places) :
    c.isDigit = true ∨ c ∈ marks := by
  have hnan : ['N', 'a', 'N'] ⊆ marks := by decide
  have hinf : ['i', 'n', 'f'] ⊆ marks := by decide
  have hminus : ['-'] ⊆ marks := by decide
  cases x with
  | nan => exact .inr (hnan h)
  | signed negative rank hrank =>
    rw [fixed, List.mem_append] at h
    obtain hsign | hmagnitude := h
    · cases negative with
      | false => exact absurd hsign List.not_mem_nil
      | true => exact .inr (hminus hsign)
    · split at hmagnitude
      · exact .inr (hinf hmagnitude)
      · refine (mem_pointed hmagnitude).imp_right ?_
        rintro rfl
        exact List.mem_cons_self

end Binary64

end Timekeeper
