import Timekeeper.Report.Podium
import Mathlib.Data.List.Basic

/-!
# A ranking is a stable sort

A ranking of some scores is a **stable sort** of those that take part: every one of them has one
placing and nothing else has one, the totals do not decrease, and equal totals keep the order of
the scores. The sort itself compares by the total order of binary64 numbers, in which also what
is not a number has a place. Only positive numbers take part, and on these it is the numeric
order.

That equal totals keep their order is a general fact about sorting by merging: whatever held
between each member of the list and all later ones still holds between members that the order
does not separate (`pairwise_mergeSort_of_ties`). It is applied to the scores numbered through.
-/

namespace Timekeeper

/-! ### Sorting by merging -/

/-- What holds between earlier and later members of a list holds after sorting between those
members that the order does not separate. -/
theorem pairwise_mergeSort_of_ties {α : Type} {le : α → α → Bool} {R : α → α → Prop} {l : List α}
    (trans : ∀ a b c, le a b = true → le b c = true → le a c = true)
    (total : ∀ a b, (le a b || le b a) = true) (h : l.Pairwise R) :
    (l.mergeSort le).Pairwise fun a b => le a b = true ∧ (le b a = true → R a b) := by
  have hsorted := List.pairwise_mergeSort trans total l
  rw [List.pairwise_iff_forall_sublist] at hsorted h ⊢
  intro a b hab
  refine ⟨hsorted hab, fun hba => h ?_⟩
  -- the members that the order does not separate from the first of the two
  let tied : α → Bool := fun c => le a c && le c a
  have hpairwise : (l.filter tied).Pairwise fun c d => le c d = true := by
    refine List.pairwise_of_forall_mem_list fun c hc d hd => ?_
    have hc := (List.mem_filter.mp hc).2
    have hd := (List.mem_filter.mp hd).2
    rw [Bool.and_eq_true] at hc hd
    exact trans c a d hc.2 hd.1
  have hsublist := (List.sublist_mergeSort trans total hpairwise List.filter_sublist).filter tied
  have hlength : ((l.filter tied).filter tied).length = ((l.mergeSort le).filter tied).length := by
    rw [List.filter_filter]
    simp only [Bool.and_self]
    exact ((List.mergeSort_perm l le).filter tied).length_eq.symm
  have hfilter : (l.filter tied).filter tied = (l.mergeSort le).filter tied :=
    hsublist.eq_of_length hlength
  have hself : le a a = true := by simpa using total a a
  have hkept : [a, b].filter tied = [a, b] := by simp [tied, hself, hsorted hab, hba]
  have hpair : [a, b].Sublist ((l.mergeSort le).filter tied) := hkept ▸ hab.filter tied
  rw [← hfilter] at hpair
  exact (hpair.trans List.filter_sublist).trans List.filter_sublist

/-! ### The order of positive numbers -/

namespace Binary64

theorem exists_rank_of_isPositive {a : Binary64} (h : a.isPositive = true) :
    ∃ (rank : Nat) (hrank : rank ≤ infinityRank), a = .signed false rank hrank := by
  cases a with
  | nan => contradiction
  | signed negative rank hrank =>
    cases negative with
    | false => exact ⟨rank, hrank, rfl⟩
    | true =>
      simp [isPositive, lt, zero, ofRank, place] at h
      omega

/-- On positive numbers the total order is the numeric one, and it does not separate equal
numbers. -/
theorem totalLe_of_isPositive {a b : Binary64} (ha : a.isPositive = true)
    (hb : b.isPositive = true) :
    a.totalLe b = a.le b ∧ (a.eq b = true → b.totalLe a = true) := by
  obtain ⟨r, hr, rfl⟩ := exists_rank_of_isPositive ha
  obtain ⟨q, hq, rfl⟩ := exists_rank_of_isPositive hb
  refine ⟨rfl, fun h => ?_⟩
  have hrank : (r : Int) = q := by simpa [eq, place] using h
  exact decide_eq_true (Int.le_of_eq hrank.symm)

end Binary64

/-! ### Stable sorts -/

namespace Ranking

/-- A score may stand before another one in a stable sort: its total is not above the other
one's, and if both are equal it was given first. Scores come with their places among those
given. -/
def MayPrecede (a b : Score × Nat) : Prop :=
  ∀ x y, a.1.total? = some x → b.1.total? = some y →
    x.le y = true ∧ (x.eq y = true → a.2 < b.2)

/-- A ranking is the **stable sort** of some scores. -/
structure IsStableSort (r : Ranking) (scores : List Score) : Prop where
  /-- Each score that takes part has one placing, no other score has one, and the placings are
  in order. -/
  exists_order : ∃ order : List (Score × Nat),
    order.Perm (scores.zipIdx.filter (·.1.isRanked)) ∧
      r.placings.map (fun p => (p.language, some p.total)) =
        order.map (fun s => (s.1.language, s.1.total?)) ∧
      order.Pairwise MayPrecede
  position_eq : ∀ i p, r.placings[i]? = some p → p.position = i + 1
  ratio_first : ∀ p, r.placings[0]? = some p → p.ratio = none
  ratio_later : ∀ i first p, r.placings[0]? = some first → r.placings[i + 1]? = some p →
    p.ratio = some (p.total / first.total)
  /-- Only the first row is marked as the fastest one, also if others are as fast. -/
  fastest_iff : ∀ i p, r.placings[i]? = some p →
    (Report.slowdown p = Report.fastestMark ↔ i = 0)

/-- What a placing takes over from a score. -/
def contender (s : Score × Nat) : String × Binary64 := (s.1.language, s.1.total?.getD .zero)

private theorem contenders_eq (scores : List Score) :
    contenders scores = (scores.zipIdx.filter (·.1.isRanked)).map contender := by
  let entry (s : Score) : String × Binary64 := (s.language, s.total?.getD .zero)
  have hfilter : contenders scores = (scores.filter Score.isRanked).map entry := by
    induction scores with
    | nil => rfl
    | cons s scores ih =>
      rw [contenders] at ih
      rw [contenders, List.filterMap_cons, ih, List.filter_cons, Score.isRanked]
      cases htotal : s.total? with
      | none => rfl
      | some total =>
        by_cases h : total.isPositive = true
        · simp [h, entry, htotal]
        · simp [h]
  have hscores : scores = scores.zipIdx.map Prod.fst := (List.zipIdx_map_fst 0 scores).symm
  rw [hfilter]
  conv_lhs => rw [hscores]
  rw [List.filter_map, List.map_map]
  rfl

/-- Numbered scores in the order of their totals. -/
def totalLe (a b : Score × Nat) : Bool := (contender a).2.totalLe (contender b).2

/-- The scores that take part, sorted, with their places among those given. -/
def order (scores : List Score) : List (Score × Nat) :=
  (scores.zipIdx.filter (·.1.isRanked)).mergeSort totalLe

theorem sorted_eq (scores : List Score) : sorted scores = (order scores).map contender := by
  rw [sorted, contenders_eq, order, List.map_mergeSort]
  exact fun a _ b _ => rfl

theorem isRanked_of_mem_order {scores : List Score} {a : Score × Nat}
    (h : a ∈ order scores) : a.1.isRanked = true :=
  (List.mem_filter.mp ((List.mergeSort_perm _ _).mem_iff.mp h)).2

/-- Of two scores in the order the first has the smaller total, or the same one and the earlier
place. -/
theorem pairwise_order_totalLe (scores : List Score) : (order scores).Pairwise fun a b =>
    totalLe a b = true ∧ (totalLe b a = true → a.2 < b.2) := by
  have hindex : (scores.zipIdx.filter (·.1.isRanked)).Pairwise fun a b => a.2 < b.2 := by
    have hall : scores.zipIdx.Pairwise fun a b => a.2 < b.2 := by
      rw [← List.pairwise_map, List.zipIdx_map_snd]
      exact List.pairwise_lt_range'
    exact hall.filter _
  exact pairwise_mergeSort_of_ties (fun a b c => Binary64.totalLe_trans)
    (fun a b => Binary64.totalLe_total _ _) hindex

theorem pairwise_order (scores : List Score) : (order scores).Pairwise MayPrecede := by
  refine (pairwise_order_totalLe scores).imp_of_mem fun {a b} ha hb h x y hx hy => ?_
  have hxpos : x.isPositive = true := by simpa [Score.isRanked, hx] using isRanked_of_mem_order ha
  have hypos : y.isPositive = true := by simpa [Score.isRanked, hy] using isRanked_of_mem_order hb
  simp only [totalLe, contender, hx, hy, Option.getD_some] at h
  obtain ⟨hle, heq⟩ := Binary64.totalLe_of_isPositive hxpos hypos
  exact ⟨hle ▸ h.1, fun hxy => h.2 (heq hxy)⟩

/-! ### The placings -/

theorem getElem?_placings {scores : List Score} {i : Nat} {p : Placing}
    (h : (ofScores scores).placings[i]? = some p) :
    ∃ c, (sorted scores)[i]? = some c ∧
      p = placing ((sorted scores).head?.map Prod.snd) (c, i) := by
  rw [ofScores] at h
  dsimp only at h
  rw [List.getElem?_map, List.getElem?_zipIdx, Option.map_map] at h
  obtain ⟨c, hc, rfl⟩ := Option.map_eq_some_iff.mp h
  exact ⟨c, hc, by simp⟩

theorem map_placings (scores : List Score) :
    (ofScores scores).placings.map (fun p => (p.language, p.total)) = sorted scores := by
  rw [ofScores]
  dsimp only
  rw [List.map_map]
  exact List.zipIdx_map_fst 0 (sorted scores)

/-- The ranking of any scores is their stable sort. -/
theorem isStableSort_ofScores (scores : List Score) :
    (ofScores scores).IsStableSort scores where
  exists_order := by
    refine ⟨order scores, List.mergeSort_perm _ _, ?_, pairwise_order scores⟩
    have hplacings : (ofScores scores).placings.map (fun p => (p.language, some p.total)) =
        (sorted scores).map fun c => (c.1, some c.2) := by
      rw [← map_placings, List.map_map]
      rfl
    rw [hplacings, sorted_eq, List.map_map]
    refine List.map_congr_left fun s hs => ?_
    obtain ⟨total, htotal, -⟩ := (Option.any_eq_true _ _).mp (isRanked_of_mem_order hs)
    simp [contender, htotal]
  position_eq i p h := by
    obtain ⟨c, -, rfl⟩ := getElem?_placings h
    rfl
  ratio_first p h := by
    obtain ⟨c, -, rfl⟩ := getElem?_placings h
    rfl
  ratio_later i first p hfirst hp := by
    obtain ⟨c, -, rfl⟩ := getElem?_placings hp
    obtain ⟨d, hd, rfl⟩ := getElem?_placings hfirst
    rw [← List.head?_eq_getElem?] at hd
    simp [placing, hd]
  fastest_iff i p h := by
    obtain ⟨c, hc, rfl⟩ := getElem?_placings h
    cases i with
    | zero => exact ⟨fun _ => rfl, fun _ => rfl⟩
    | succ i =>
      obtain ⟨first, hfirst⟩ : ∃ first, (sorted scores).head? = some first := by
        cases hsorted : sorted scores with
        | nil => simp [hsorted] at hc
        | cons first rest => exact ⟨first, rfl⟩
      have hslow : Report.slowdown (placing ((sorted scores).head?.map Prod.snd) (c, i + 1)) =
          "📉 ".toList ++ (c.2 / first.2).fixed 2 ++ "x slower".toList := by
        rw [hfirst]
        rfl
      refine ⟨fun hmark => ?_, fun hzero => by contradiction⟩
      rw [hslow] at hmark
      simp [Report.fastestMark] at hmark

end Ranking

end Timekeeper
