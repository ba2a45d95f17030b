import Timekeeper.Proofs.Binary64.Order

/-!
# Sums of durations

Durations are added up from left to right, and every partial sum is rounded. A sum of durations
is never below zero, but it need not be one: it is finite exactly if it **stays in range**, that is
if on the way no partial sum reaches the overflow threshold together with the next number
(`sum_of_isDuration`). One addition decides whether the next partial sum is finite
(`IsDuration.add_right`), and the rest is an induction from the end of the list.

A sum also keeps of its terms what an order needs: it is not below any of them (`le_sum_of_mem`),
and it is above zero exactly if one of them is (`isPositive_sum_iff`). Both hold beyond the range as
well, where the sum is infinite.
-/

namespace Timekeeper

namespace Binary64

variable {x y : Binary64} {xs : List Binary64}

private theorem infinity_add {negative : Bool} {rank : Nat} {hrank : rank ≤ infinityRank}
    (h : rank < infinityRank) : infinity + signed negative rank hrank = infinity := by
  change add infinity _ = infinity
  rw [infinity, ofRank, add, if_pos (Nat.min_self _), if_neg fun hboth => h.ne hboth.1]
  rfl

/-- What is not below zero stays so when a duration is added. The sum is finite if the number was
and lies below the overflow threshold together with the duration. -/
theorem IsDuration.add_right (hy : IsDuration y) (hx : zero.le x = true) :
    zero.le (x + y) = true ∧
      ((x + y).isFinite = true ↔ x.isFinite = true ∧ x.value + y.value < overflowThreshold) := by
  obtain hx | rfl := isDuration_or_eq_infinity hx
  · obtain hnearest | ⟨hzero, hsum, -⟩ := hx.add hy
    · exact ⟨hnearest.zero_le, hnearest.isFinite_iff.trans (iff_and_self.mpr fun _ => hx.1)⟩
    · have hlt : x.value + y.value < overflowThreshold := by
        rw [hzero, overflowThreshold, sub_pos]
        exact pow_lt_pow_right₀ one_lt_two (by decide)
      exact ⟨hsum.2, iff_of_true hsum.1 ⟨hx.1, hlt⟩⟩
  · obtain ⟨t, u, hu, rfl, hult, -⟩ := isDuration_iff.mp hy
    rw [infinity_add hult]
    exact ⟨rfl, iff_of_false (by decide) fun h => absurd h.1 (by decide)⟩

theorem sum_append_singleton (xs : List Binary64) (x : Binary64) :
    sum (xs ++ [x]) = sum xs + x := by
  rw [sum, List.foldl_append]
  rfl

/-- The negative zero changes nothing. -/
theorem IsDuration.negativeZero_add (hx : IsDuration x) : negativeZero + x = x := by
  have hnegative : IsDuration negativeZero := ⟨by decide, by decide⟩
  have hvalue : negativeZero.value = 0 := by
    change -magnitude 0 = 0
    rw [magnitude_zero, neg_zero]
  obtain hpos | hzero := hx.value_nonneg.lt_or_eq
  · obtain hnearest | ⟨hsum, -⟩ := hnegative.add hx
    · rw [hvalue, zero_add] at hnearest
      exact hnearest.unique (hx.isNearest_value hpos)
    · rw [hvalue, zero_add] at hsum
      exact absurd hsum hpos.ne'
  · obtain ⟨negative, rfl⟩ := hx.eq_ofRank_zero hzero.symm
    cases negative <;> decide +kernel

/-- The sum of some durations begins with the first of them. -/
theorem sum_cons (hx : IsDuration x) (xs : List Binary64) :
    sum (x :: xs) = xs.foldl (· + ·) x := by
  rw [sum, List.foldl_cons, hx.negativeZero_add]

/-- A sum **stays in range** when no addition on the way reaches the overflow threshold: what has
been added up so far lies below it together with the next number. -/
def StaysInRange (xs : List Binary64) : Prop :=
  ∀ earlier next later, xs = earlier ++ next :: later →
    (sum earlier).value + next.value < overflowThreshold

theorem staysInRange_nil : StaysInRange [] := fun earlier next later h => by simp at h

theorem staysInRange_append_singleton : StaysInRange (xs ++ [x]) ↔
    StaysInRange xs ∧ (sum xs).value + x.value < overflowThreshold := by
  constructor
  · intro h
    exact ⟨fun earlier next later heq => h earlier next (later ++ [x]) (by simp [heq]),
      h xs x [] rfl⟩
  · rintro ⟨hxs, hx⟩ earlier next later heq
    obtain rfl | ⟨front, last, rfl⟩ := List.eq_nil_or_concat later
    · obtain ⟨rfl, hnext⟩ := List.append_inj' heq rfl
      obtain rfl := List.singleton_inj.mp hnext
      exact hx
    · rw [List.concat_eq_append, ← List.cons_append, ← List.append_assoc] at heq
      exact hxs earlier next front (List.append_inj' heq rfl).1

/-- A sum of durations is never below zero, and it is finite exactly if it stays in range. -/
theorem sum_of_isDuration (h : ∀ x ∈ xs, IsDuration x) :
    zero.le (sum xs) = true ∧ ((sum xs).isFinite = true ↔ StaysInRange xs) := by
  induction xs using List.reverseRecOn with
  | nil => exact ⟨by decide, iff_of_true (by decide) staysInRange_nil⟩
  | append_singleton xs x ih =>
    obtain ⟨hzero, hfinite⟩ := ih fun y hy => h y (List.mem_append_left _ hy)
    have hx : IsDuration x := h x (List.mem_append_right _ List.mem_cons_self)
    rw [sum_append_singleton, staysInRange_append_singleton, ← hfinite]
    exact hx.add_right hzero

/-! ### Sums and their members -/

/-- An addition of a duration does not go below either side. -/
theorem IsDuration.le_add (hy : IsDuration y) (hx : zero.le x = true) :
    x.le (x + y) = true ∧ y.le (x + y) = true := by
  obtain hx | rfl := isDuration_or_eq_infinity hx
  · obtain hnearest | ⟨hzero, hsum, hvalue⟩ := hx.add hy
    · exact ⟨hx.le_of_isNearest hnearest (le_add_of_nonneg_right hy.value_nonneg),
        hy.le_of_isNearest hnearest (le_add_of_nonneg_left hx.value_nonneg)⟩
    · obtain ⟨hxzero, hyzero⟩ :=
        (add_eq_zero_iff_of_nonneg hx.value_nonneg hy.value_nonneg).mp hzero
      exact ⟨(hx.le_iff hsum).mpr (hxzero.trans hvalue.symm).le,
        (hy.le_iff hsum).mpr (hyzero.trans hvalue.symm).le⟩
  · obtain ⟨t, u, hu, rfl, hult, -⟩ := isDuration_iff.mp hy
    rw [infinity_add hult]
    exact ⟨by decide, hy.le_infinity⟩

/-- A sum is above zero only if a side is. Nothing above zero is rounded to zero in a sum. -/
theorem IsDuration.isPositive_add (hy : IsDuration y) (hx : zero.le x = true) :
    (x + y).isPositive = true ↔ x.isPositive = true ∨ y.isPositive = true := by
  obtain ⟨hle, hle'⟩ := hy.le_add hx
  refine ⟨fun hpos => ?_, fun h => h.elim (isPositive_of_le hle) (isPositive_of_le hle')⟩
  obtain hx | rfl := isDuration_or_eq_infinity hx
  · rw [hx.isPositive_iff, hy.isPositive_iff]
    by_contra hnone
    obtain ⟨hxzero, hyzero⟩ := not_or.mp hnone
    have hsum : x.value + y.value ≤ 0 :=
      add_nonpos (not_lt.mp hxzero) (not_lt.mp hyzero)
    obtain hnearest | ⟨-, hsum, hvalue⟩ := hx.add hy
    · have hzero : IsNearest (x.value + y.value) zero :=
        isNearest_zero (by linarith [magnitude_nonneg 1])
      rw [hnearest.unique hzero] at hpos
      exact absurd hpos (by decide)
    · exact (hsum.isPositive_iff.mp hpos).ne' hvalue
  · exact .inl (by decide)

/-- A sum of durations is not below any of them. -/
theorem le_sum_of_mem (h : ∀ x ∈ xs, IsDuration x) (hx : x ∈ xs) : x.le (sum xs) = true := by
  induction xs using List.reverseRecOn with
  | nil => contradiction
  | append_singleton xs y ih =>
    have hearlier : ∀ x ∈ xs, IsDuration x := fun x hx => h x (List.mem_append_left _ hx)
    have hy : IsDuration y := h y (List.mem_append_right _ List.mem_cons_self)
    obtain ⟨hle, hle'⟩ := hy.le_add (sum_of_isDuration hearlier).1
    rw [sum_append_singleton]
    obtain hx | hx := List.mem_append.mp hx
    · exact le_trans (ih hearlier hx) hle
    · rwa [List.mem_singleton.mp hx]

/-- A sum of durations is above zero exactly if one of them is. -/
theorem isPositive_sum_iff (h : ∀ x ∈ xs, IsDuration x) :
    (sum xs).isPositive = true ↔ ∃ x ∈ xs, x.isPositive = true := by
  induction xs using List.reverseRecOn with
  | nil => exact iff_of_false (by decide) (by simp)
  | append_singleton xs y ih =>
    have hearlier : ∀ x ∈ xs, IsDuration x := fun x hx => h x (List.mem_append_left _ hx)
    have hy : IsDuration y := h y (List.mem_append_right _ List.mem_cons_self)
    rw [sum_append_singleton, hy.isPositive_add (sum_of_isDuration hearlier).1, ih hearlier]
    simp only [List.mem_append, List.mem_singleton, or_and_right, exists_or, exists_eq_left]

end Binary64

end Timekeeper
