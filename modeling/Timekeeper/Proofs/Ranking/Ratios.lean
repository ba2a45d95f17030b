import Timekeeper.Proofs.Binary64.Quotient
import Timekeeper.Proofs.Ranking.Origins

/-!
# Ratios follow the ranking

Every placing behind the first one has a ratio: its total divided by the fastest one, rounded. Where
the ranked totals are finite, the ratios still tell what the order of the totals tells
(`Ranking.ratiosFollow_ofScores`).

* Rounding is monotone, so the ratios do not decrease down the ranking
  (`Binary64.IsDuration.div_le_div`).
* A rounded quotient compares with one as the exact one does. So no ratio is below one, and a ratio
  is one exactly if the total is the fastest one.

A ratio need not be finite itself. The fastest total may be so small that a quotient by it leaves
the range, and then the ratio is infinite, which is above one as well.
-/

namespace Timekeeper

open Binary64

namespace Ranking

variable {scores : List Score} {first p : Placing}

/-! ### Totals in order -/

theorem isPositive_of_mem_placings (hp : p ∈ (ofScores scores).placings) :
    p.total.isPositive = true := by
  obtain ⟨n, hn⟩ := List.mem_iff_getElem?.mp hp
  rw [getElem?_placings_eq] at hn
  obtain ⟨x, hx, rfl⟩ := Option.map_eq_some_iff.mp hn
  exact (of_mem_order (List.mem_of_getElem? hx)).2.2

/-- Where the ranked totals of scores are finite, all placings have durations as their totals, and
these are in order. -/
theorem isDuration_placings
    (h : ∀ s ∈ scores, s.isRanked = true → ∀ t, s.total? = some t → t.isFinite = true) :
    (∀ p ∈ (ofScores scores).placings, IsDuration p.total) ∧
      (ofScores scores).placings.Pairwise fun p q => p.total.le q.total = true := by
  have hmap : (ofScores scores).placings.map Placing.total =
      (order scores).map fun x => (contender x).2 := by
    have hsecond := congrArg (List.map Prod.snd) ((map_placings scores).trans (sorted_eq scores))
    rwa [List.map_map, List.map_map] at hsecond
  constructor
  · intro p hp
    have hmem : p.total ∈ (order scores).map fun x => (contender x).2 :=
      hmap ▸ List.mem_map_of_mem hp
    obtain ⟨x, hx, htotal⟩ := List.mem_map.mp hmem
    obtain ⟨hscore, hsome, hpositive⟩ := of_mem_order hx
    have hfinite := h _ (List.mem_of_getElem? hscore) (isRanked_of_mem_order hx) _ hsome
    rw [← htotal]
    exact isDuration_of_isPositive hfinite hpositive
  · have hpairwise : ((order scores).map fun x => (contender x).2).Pairwise
        fun x y => x.le y = true := by
      refine List.pairwise_map.mpr ((pairwise_order scores).imp_of_mem fun ha hb hprecede => ?_)
      exact (hprecede _ _ (of_mem_order ha).2.1 (of_mem_order hb).2.1).1
    exact List.pairwise_map.mp (hmap ▸ hpairwise)

/-- No total is below the fastest one. -/
theorem exists_fastest?_le
    (h : ∀ s ∈ scores, s.isRanked = true → ∀ t, s.total? = some t → t.isFinite = true)
    (hp : p ∈ (ofScores scores).placings) :
    ∃ first ∈ (ofScores scores).placings, (ofScores scores).fastest? = some first ∧
      first.total.value ≤ p.total.value := by
  obtain ⟨hduration, hle⟩ := isDuration_placings h
  obtain ⟨first, hfirst⟩ := exists_fastest?_of_mem hp
  have hmem : first ∈ (ofScores scores).placings := List.mem_of_head? hfirst
  refine ⟨first, hmem, hfirst, ?_⟩
  obtain ⟨rest, hplacings⟩ := List.head?_eq_some_iff.mp hfirst
  rw [hplacings, List.pairwise_cons] at hle
  rw [hplacings] at hp
  obtain rfl | hrest := List.mem_cons.mp hp
  · exact le_rfl
  · exact ((hduration first hmem).le_iff (hduration p (hplacings ▸ hp))).mp (hle.1 p hrest)

/-! ### Ratios -/

/-- A ratio is the total divided by that of the first placing. -/
theorem ratio_eq_div (hfirst : (ofScores scores).fastest? = some first)
    (hp : p ∈ (ofScores scores).placings) {x : Binary64} (hx : p.ratio = some x) :
    x = p.total / first.total := by
  obtain ⟨n, hn⟩ := List.mem_iff_getElem?.mp hp
  obtain ⟨-, hratio⟩ := of_getElem?_placings hfirst hn
  rw [hx] at hratio
  obtain ⟨-, heq⟩ := Option.ite_none_left_eq_some.mp hratio.symm
  exact (Option.some.inj heq).symm

/-- The ratios of a ranking **follow** its order. -/
structure RatiosFollow (r : Ranking) : Prop where
  /-- Every placing but the first one has a ratio. -/
  isSome_iff : ∀ n p, r.placings[n]? = some p → (p.ratio.isSome = true ↔ 0 < n)
  one_le : ∀ p ∈ r.placings, ∀ x, p.ratio = some x → x ≠ .nan ∧ Binary64.one.le x = true
  /-- The ratios do not decrease down the ranking. -/
  ordered : (r.placings.filterMap Placing.ratio).Pairwise fun x y => x.le y = true
  /-- A ratio is one exactly if the total is the fastest one. -/
  eq_one_iff : ∀ first, r.fastest? = some first → ∀ p ∈ r.placings, ∀ x, p.ratio = some x →
    (x = .one ↔ p.total.eq first.total = true)

/-- Where the ranked totals are finite, the ratios follow the order of the totals. -/
theorem ratiosFollow_ofScores
    (h : ∀ s ∈ scores, s.isRanked = true → ∀ t, s.total? = some t → t.isFinite = true) :
    (ofScores scores).RatiosFollow := by
  obtain ⟨hduration, hle⟩ := isDuration_placings h
  have hpos : ∀ p ∈ (ofScores scores).placings, 0 < p.total.value := fun p hp =>
    (hduration p hp).isPositive_iff.mp (isPositive_of_mem_placings hp)
  constructor
  · intro n p hn
    obtain ⟨first, hfastest⟩ := exists_fastest?_of_mem (List.mem_of_getElem? hn)
    rw [(of_getElem?_placings hfastest hn).2]
    cases n <;> simp
  · intro p hp x hx
    obtain ⟨first, hmem, hfastest, hvalue⟩ := exists_fastest?_le h hp
    have hone : Binary64.one.le x = true := by
      rw [ratio_eq_div hfastest hp hx]
      exact (hduration p hp).one_le_div (hduration first hmem) (hpos p hp) (hpos first hmem) hvalue
    refine ⟨?_, hone⟩
    rintro rfl
    contradiction
  · refine List.pairwise_filterMap.mpr (hle.imp_of_mem ?_)
    intro p q hp hq hpq x hx y hy
    obtain ⟨first, hmem, hfastest, -⟩ := exists_fastest?_le h hp
    have hvalue := ((hduration p hp).le_iff (hduration q hq)).mp hpq
    rw [ratio_eq_div hfastest hp hx, ratio_eq_div hfastest hq hy]
    exact (hduration p hp).div_le_div (hduration q hq) (hduration first hmem) (hpos p hp)
      (hpos q hq) (hpos first hmem) hvalue
  · intro first hfastest p hp x hx
    have hmem : first ∈ (ofScores scores).placings := List.mem_of_head? hfastest
    rw [ratio_eq_div hfastest hp hx, (hduration p hp).eq_iff (hduration first hmem)]
    exact (hduration p hp).div_eq_one_iff (hduration first hmem) (hpos p hp) (hpos first hmem)

/-- Here two languages tie for the smallest number above zero. The quotient of the third one by it
leaves the range, and the total of the last one is no number at all, so that it takes no part. -/
theorem ratiosFollow_ofScores_subnormal :
    let least := Binary64.ofRank false 1
    let scores : List Score := [⟨"C", .measured [] (some (.ofNat 5))⟩,
      ⟨"Go", .measured [] (some least)⟩, ⟨"Zig", .measured [] (some least)⟩,
      ⟨"PHP", .measured [] (some .nan)⟩]
    (ofScores scores).RatiosFollow ∧
      (ofScores scores).placings.map (fun p => (p.language, p.ratio)) =
        [("Go", none), ("Zig", some .one), ("C", some .infinity)] := by
  intro least scores
  have hfinite : ∀ s ∈ scores, s.isRanked = true → ∀ t, s.total? = some t → t.isFinite = true := by
    intro s hs hranked t ht
    obtain rfl | rfl | rfl | rfl : s = _ ∨ s = _ ∨ s = _ ∨ s = _ := by simpa [scores] using hs
    · exact Option.some.inj ht ▸ by decide +kernel
    · exact Option.some.inj ht ▸ by decide
    · exact Option.some.inj ht ▸ by decide
    · contradiction
  have hsorted : sorted scores = [("Go", least), ("Zig", least), ("C", .ofNat 5)] := by
    have hleast : least.isPositive = true := by decide
    have hfive : (Binary64.ofNat 5).isPositive = true := by decide +kernel
    have hnan : Binary64.nan.isPositive = false := rfl
    have htie : least.totalLe least = true := by decide
    have hless : (Binary64.ofNat 5).totalLe least = false := by decide +kernel
    simp [scores, sorted, contenders, Score.total?, List.mergeSort,
      List.MergeSort.Internal.splitInTwo, hleast, hfive, hnan, htie, hless]
  refine ⟨ratiosFollow_ofScores hfinite, ?_⟩
  have hone : least / least = .one := by decide +kernel
  have hinfinite : Binary64.ofNat 5 / least = .infinity := by decide +kernel
  simp [ofScores, hsorted, placing, hone, hinfinite]

end Ranking

end Timekeeper
