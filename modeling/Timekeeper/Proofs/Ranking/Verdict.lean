import Timekeeper.Proofs.Binary64.Quotient
import Timekeeper.Ranking

/-!
# Verdicts of comparisons

A comparison takes its verdict from a rounded quotient, and its factor from the quotient or from the
rounded reciprocal of it. Neither rounding shows: the verdict is that of the order of the two
totals, whatever finite positive numbers they are, and the factor says by how many times and never
by less than one (`Comparison.decides_of`).

A quotient that is rounded down to zero has no reciprocal, and the factor is then infinite.
-/

namespace Timekeeper

open Binary64

namespace Comparison

/-- A comparison of two totals and the comparison the other way round **decide** the order of the
totals. -/
structure Decides (s b : Binary64) (there back : Comparison) : Prop where
  isFaster_iff : there.isFaster = true ↔ s.lt b = true
  /-- Of different totals exactly one is the faster one. -/
  one_faster : s.eq b = false → (there.isFaster = true ↔ back.isFaster = false)
  /-- Of equal totals none is, and the factor is one both ways. -/
  none_faster : s.eq b = true →
    (there.isFaster = false ∧ there.factor = .one) ∧ (back.isFaster = false ∧ back.factor = .one)
  factor_ne_nan : there.factor ≠ .nan
  one_le_factor : Binary64.one.le there.factor = true

variable {s b : Binary64}

/-- The verdict is that of the totals. -/
theorem isFaster_of_iff (hs : IsDuration s) (hb : IsDuration b) (hspos : 0 < s.value)
    (hbpos : 0 < b.value) (subject baseline : String) :
    (of subject s baseline b).isFaster = true ↔ s.value < b.value :=
  (hs.div_lt_one_iff hb hspos hbpos).trans (hs.lt_iff hb)

/-- The factor is not below one. -/
private theorem one_le_factor_of (hs : IsDuration s) (hb : IsDuration b) (hspos : 0 < s.value)
    (hbpos : 0 < b.value) (subject baseline : String) :
    Binary64.one.le (of subject s baseline b).factor = true := by
  have hverdict := isFaster_of_iff hs hb hspos hbpos subject baseline
  rw [factor]
  split
  · exact (hs.isNearest_div hb hspos hbpos).one_le_one_div ‹_›
  · rename_i hslower
    exact hs.one_le_div hb hspos hbpos (not_lt.mp fun hlt => hslower (hverdict.mpr hlt))

/-- Of equal totals neither is the faster one, and the factor is one. -/
private theorem factor_of_value_eq (hs : IsDuration s) (hb : IsDuration b) (hspos : 0 < s.value)
    (hbpos : 0 < b.value) (heq : s.value = b.value) (subject baseline : String) :
    (of subject s baseline b).isFaster = false ∧ (of subject s baseline b).factor = .one := by
  have hverdict := isFaster_of_iff hs hb hspos hbpos subject baseline
  have hslower : (of subject s baseline b).isFaster = false :=
    Bool.eq_false_iff.mpr fun h => (hverdict.mp h).ne heq
  refine ⟨hslower, ?_⟩
  rw [factor, hslower]
  exact (hs.div_eq_one_iff hb hspos hbpos).mpr heq

/-- The comparisons of two finite positive totals decide their order. -/
theorem decides_of (hs : s.isFinite = true) (hb : b.isFinite = true) (hspos : s.isPositive = true)
    (hbpos : b.isPositive = true) (subject baseline : String) :
    Decides s b (of subject s baseline b) (of baseline b subject s) := by
  have hs := isDuration_of_isPositive hs hspos
  have hb := isDuration_of_isPositive hb hbpos
  have hspos := hs.isPositive_iff.mp hspos
  have hbpos := hb.isPositive_iff.mp hbpos
  have hthere := isFaster_of_iff hs hb hspos hbpos subject baseline
  have hback := isFaster_of_iff hb hs hbpos hspos baseline subject
  have hfactor := one_le_factor_of hs hb hspos hbpos subject baseline
  constructor
  · rw [hthere, hs.lt_iff hb]
  · intro hne
    have hne : s.value ≠ b.value := fun heq =>
      Bool.false_ne_true (hne.symm.trans ((hs.eq_iff hb).mpr heq))
    rw [hthere, ← Bool.not_eq_true, hback, not_lt, le_iff_lt_or_eq, or_iff_left hne]
  · intro heq
    have heq := (hs.eq_iff hb).mp heq
    exact ⟨factor_of_value_eq hs hb hspos hbpos heq subject baseline,
      factor_of_value_eq hb hs hbpos hspos heq.symm baseline subject⟩
  · intro hnan
    rw [hnan] at hfactor
    contradiction
  · exact hfactor

/-- The numbers next to one are told apart from it, though their quotients are as near to one as
quotients of different numbers come. -/
theorem decides_of_neighbours :
    let below := Binary64.ofRank false 0x3fefffffffffffff
    let above := Binary64.ofRank false 0x3ff0000000000001
    Decides below .one (of "Go" below "C" .one) (of "C" .one "Go" below) ∧
      Decides above .one (of "Go" above "C" .one) (of "C" .one "Go" above) := by
  intro below above
  exact ⟨decides_of (by decide) (by decide) (by decide) (by decide) "Go" "C",
    decides_of (by decide) (by decide) (by decide) (by decide) "Go" "C"⟩

end Comparison

end Timekeeper
