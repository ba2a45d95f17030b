import Timekeeper.Proofs.Ranking.Stable
import Mathlib.Data.List.Nodup
import Mathlib.Order.Basic

/-!
# Where placings come from

A placing names its language and not the score it was made from, and two scores may have the same
name. The **origins** of a ranking tell the scores apart: they have, for every placing, the place
of its score among those given (`hasOrigins_origins`).

With its origins known, a score can be left out of a ranking, and what is left depends on the other
scores alone (`filter_order_eq`): the order is the only one of its members in which smaller totals
come first and equal ones in the order given, and that stays so when one member is taken away. As
every score has one place, a placing moves by at most one when a score is taken away
(`exists_getElem?_filter`).
-/

namespace Timekeeper

namespace Ranking

variable {scores scores' : List Score}

/-- The **origins** of a ranking: the places of its scores among those given. -/
def origins (scores : List Score) : List Nat := (order scores).map Prod.snd

/-- A ranking has some places as its **origins** when each placing has the language and the total
of the score at its place, no score is placed twice, and of placings with equal totals the
first has the earlier place. -/
structure HasOrigins (r : Ranking) (scores : List Score) (places : List Nat) : Prop where
  length_eq : places.length = r.placings.length
  nodup : places.Nodup
  origin : ∀ (n i : Nat) (p : Placing), places[n]? = some i → r.placings[n]? = some p →
    ∃ s, scores[i]? = some s ∧ s.language = p.language ∧ s.total? = some p.total
  ties : ∀ (m n i j : Nat) (p q : Placing), m < n → places[m]? = some i → places[n]? = some j →
    r.placings[m]? = some p → r.placings[n]? = some q → p.total.eq q.total = true → i < j

/-- The placings of some scores, each with the place of its score. -/
def traced (scores : List Score) : List (Placing × Nat) :=
  (ofScores scores).placings.zip (origins scores)

/-! ### The order and its placings -/

/-- The score at a place of the order is the one given there, and it has a total. -/
theorem of_mem_order {x : Score × Nat} (h : x ∈ order scores) :
    scores[x.2]? = some x.1 ∧ x.1.total? = some (contender x).2 ∧
      (contender x).2.isPositive = true := by
  have hranked := isRanked_of_mem_order h
  have hmem := (List.mem_filter.mp ((List.mergeSort_perm _ _).mem_iff.mp h)).1
  refine ⟨List.mem_zipIdx_iff_getElem?.mp hmem, ?_⟩
  rw [Score.isRanked, Option.any_eq_true] at hranked
  obtain ⟨total, htotal, hpositive⟩ := hranked
  simp [contender, htotal, hpositive]

theorem nodup_origins (scores : List Score) : (origins scores).Nodup := by
  have hall : (scores.zipIdx.map Prod.snd).Nodup := by
    rw [List.zipIdx_map_snd]
    exact List.nodup_range'
  have hranked := hall.sublist ((List.filter_sublist (p := (·.1.isRanked))).map Prod.snd)
  exact (((List.mergeSort_perm _ totalLe).map Prod.snd).nodup_iff).mpr hranked

/-- The placing at a place of the ranking is that of the score at the same place of the order. -/
theorem getElem?_placings_eq (scores : List Score) (n : Nat) :
    (ofScores scores).placings[n]? = (order scores)[n]?.map fun x =>
      placing ((order scores).head?.map fun first => (contender first).2) (contender x, n) := by
  rw [ofScores, sorted_eq]
  simp [List.getElem?_zipIdx, List.head?_map, Option.map_map, Function.comp_def]

theorem exists_fastest?_of_mem {p : Placing} (hp : p ∈ (ofScores scores).placings) :
    ∃ first, (ofScores scores).fastest? = some first := by
  obtain ⟨first, rest, hplacings⟩ := List.exists_cons_of_ne_nil (List.ne_nil_of_mem hp)
  exact ⟨first, by rw [fastest?, hplacings, List.head?_cons]⟩

/-- A placing bears the number of its place, and behind the first one it has a ratio. -/
theorem of_getElem?_placings {n : Nat} {first p : Placing}
    (hfirst : (ofScores scores).fastest? = some first)
    (hp : (ofScores scores).placings[n]? = some p) :
    p.position = n + 1 ∧ p.ratio = if n = 0 then none else some (p.total / first.total) := by
  rw [fastest?, List.head?_eq_getElem?, getElem?_placings_eq, ← List.head?_eq_getElem?] at hfirst
  rw [getElem?_placings_eq] at hp
  obtain ⟨x, hx, rfl⟩ := Option.map_eq_some_iff.mp hfirst
  obtain ⟨y, -, rfl⟩ := Option.map_eq_some_iff.mp hp
  refine ⟨rfl, ?_⟩
  rw [placing, hx]
  rfl

theorem length_origins (scores : List Score) :
    (origins scores).length = (ofScores scores).placings.length := by
  rw [origins, List.length_map, ofScores, sorted_eq]
  simp

/-- As many scores are placed as have a total above zero. -/
theorem length_placings (scores : List Score) :
    (ofScores scores).placings.length = (scores.filter Score.isRanked).length := by
  have hnumbered : scores.zipIdx.map Prod.fst = scores := List.zipIdx_map_fst 0 scores
  have hlength := congrArg List.length (map_placings scores)
  rw [List.length_map, sorted_eq, List.length_map, order, List.length_mergeSort] at hlength
  rw [hlength]
  conv_rhs => rw [← hnumbered, List.filter_map, List.length_map]
  rfl

theorem exists_score_of_mem {p : Placing} (hp : p ∈ (ofScores scores).placings) :
    ∃ s ∈ scores, s.language = p.language := by
  obtain ⟨n, hn⟩ := List.mem_iff_getElem?.mp hp
  rw [getElem?_placings_eq] at hn
  obtain ⟨x, hx, rfl⟩ := Option.map_eq_some_iff.mp hn
  obtain ⟨hscore, -, -⟩ := of_mem_order (List.mem_of_getElem? hx)
  exact ⟨x.1, List.mem_of_getElem? hscore, rfl⟩

/-- A traced placing stands at its position, with its score at the same place of the order. -/
theorem mem_traced {p : Placing} {i : Nat} : (p, i) ∈ traced scores ↔
    ∃ n x, (order scores)[n]? = some x ∧ x.2 = i ∧
      p = placing ((order scores).head?.map fun first => (contender first).2) (contender x, n) := by
  rw [List.mem_iff_getElem?]
  refine exists_congr fun n => ?_
  rw [traced, List.getElem?_zip_eq_some, getElem?_placings_eq, origins, List.getElem?_map]
  cases (order scores)[n]? with
  | none => simp
  | some x => simp [eq_comm, and_comm]

/-- The scores of a ranking are at the places that its origins tell. -/
theorem hasOrigins_origins (scores : List Score) :
    (ofScores scores).HasOrigins scores (origins scores) where
  length_eq := length_origins scores
  nodup := nodup_origins scores
  origin n i p hi hp := by
    rw [getElem?_placings_eq] at hp
    obtain ⟨x, hx, rfl⟩ := Option.map_eq_some_iff.mp hp
    rw [origins, List.getElem?_map, hx] at hi
    obtain rfl := Option.some.inj hi
    obtain ⟨hscore, htotal, -⟩ := of_mem_order (List.mem_of_getElem? hx)
    exact ⟨x.1, hscore, rfl, htotal⟩
  ties m n i j p q hmn hi hj hp hq hpq := by
    rw [getElem?_placings_eq] at hp hq
    obtain ⟨x, hx, rfl⟩ := Option.map_eq_some_iff.mp hp
    obtain ⟨y, hy, rfl⟩ := Option.map_eq_some_iff.mp hq
    rw [origins, List.getElem?_map, hx] at hi
    rw [origins, List.getElem?_map, hy] at hj
    obtain rfl := Option.some.inj hi
    obtain rfl := Option.some.inj hj
    obtain ⟨hm, hxm⟩ := List.getElem?_eq_some_iff.mp hx
    obtain ⟨hn, hyn⟩ := List.getElem?_eq_some_iff.mp hy
    have hprecede := List.pairwise_iff_getElem.mp (pairwise_order scores) m n hm hn hmn
    rw [hxm, hyn] at hprecede
    have htotal := (of_mem_order (List.mem_of_getElem? hx)).2.1
    have htotal' := (of_mem_order (List.mem_of_getElem? hy)).2.1
    exact (hprecede _ _ htotal htotal').2 hpq

/-- The languages and totals of a ranking, with the places of the scores. -/
theorem map_traced (scores : List Score) :
    (traced scores).map (fun x => (x.1.language, x.1.total, x.2)) =
      (order scores).map fun x => ((contender x).1, (contender x).2, x.2) := by
  refine List.ext_getElem? fun n => ?_
  rw [List.getElem?_map, List.getElem?_map, traced, List.zip, List.getElem?_zipWith,
    getElem?_placings_eq, origins, List.getElem?_map]
  cases (order scores)[n]? <;> rfl

/-! ### Leaving a score out -/

/-- Scores that differ in one place only are in the same order but for that place. -/
theorem filter_order_eq {k : Nat}
    (h : scores.zipIdx.filter (fun x => x.2 ≠ k) = scores'.zipIdx.filter fun x => x.2 ≠ k) :
    (order scores).filter (fun x => x.2 ≠ k) = (order scores').filter fun x => x.2 ≠ k := by
  have hpairwise (scores : List Score) :
      ((order scores).filter fun x => x.2 ≠ k).Pairwise fun a b =>
        totalLe a b = true ∧ (totalLe b a = true → a.2 < b.2) :=
    (pairwise_order_totalLe scores).filter _
  have hperm (scores : List Score) : ((order scores).filter fun x => x.2 ≠ k).Perm
      ((scores.zipIdx.filter fun x => x.2 ≠ k).filter (·.1.isRanked)) := by
    rw [List.filter_filter, List.filter_congr fun x _ => Bool.and_comm _ _, ← List.filter_filter]
    exact (List.mergeSort_perm _ _).filter _
  -- two members cannot both come before each other, so the sorted list is unique
  refine List.Perm.eq_of_pairwise (fun a b _ _ hab hba => ?_) (hpairwise scores)
    (hpairwise scores') ?_
  · have h1 := hab.2 hba.1
    have h2 := hba.2 hab.1
    omega
  · have hperm' := hperm scores'
    rw [← h] at hperm'
    exact (hperm scores).trans hperm'.symm

variable {k : Nat} {l : List (Score × Nat)}

/-- A list around one of its members. -/
theorem exists_split {n : Nat} {x : Score × Nat} (h : l[n]? = some x) :
    ∃ front back, l = front ++ x :: back ∧ front.length = n := by
  obtain ⟨hlt, hget⟩ := List.getElem?_eq_some_iff.mp h
  refine ⟨l.take n, l.drop (n + 1), ?_, List.length_take_of_le (Nat.le_of_lt hlt)⟩
  rw [← hget, ← List.drop_eq_getElem_cons hlt, List.take_append_drop]

/-- A member stands where it stood, or one place further up, when the members of one place, of
which there is at most one, are left out. -/
theorem exists_getElem?_filter (hl : (l.map Prod.snd).Nodup) {n : Nat} {x : Score × Nat}
    (hn : l[n]? = some x) (hx : x.2 ≠ k) :
    ∃ m, (l.filter fun x => x.2 ≠ k)[m]? = some x ∧ m ≤ n ∧ n ≤ m + 1 := by
  obtain ⟨front, back, rfl, rfl⟩ := exists_split hn
  refine ⟨(front.filter fun x => x.2 ≠ k).length, ?_, List.length_filter_le _ _, ?_⟩
  · rw [List.filter_append, List.getElem?_append_right (Nat.le_refl _), Nat.sub_self,
      List.filter_cons_of_pos (by simpa using hx), List.getElem?_cons_zero]
  · rw [List.map_append] at hl
    have hone := List.nodup_iff_count_le_one.mp (List.nodup_append.mp hl).1 k
    have hsplit := List.length_eq_countP_add_countP (fun x : Score × Nat => decide (x.2 ≠ k))
      (l := front)
    have hcount : front.countP (fun x => ¬decide (x.2 ≠ k) = true) =
        (front.map Prod.snd).count k := by
      rw [List.count_eq_countP, List.countP_map]
      exact List.countP_congr fun y _ => by simp
    rw [List.countP_eq_length_filter] at hsplit
    omega

end Ranking

end Timekeeper
