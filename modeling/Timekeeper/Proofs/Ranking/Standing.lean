import Timekeeper.Proofs.Ranking.Origins
import Timekeeper.Proofs.Ranking.Verdict

/-!
# Standing is counting

Where a language stands is a matter of counting, without any sorting: of the scores that take part
one is **ahead** of another if its total is smaller, or the same and given earlier, and the rank of
a language is one more than how many scores are ahead of its own. A language with several scores
stands where the foremost of them does (`Ranking.IsStanding`).

A ranking is in the order of being ahead, so that the scores ahead of one are those placed before it
(`length_filter_isAhead`) and the first placing of a language belongs to its foremost score.
Comparing two languages compares their totals, and the smaller total is placed first.
-/

namespace Timekeeper

open Binary64

namespace Ranking

variable {scores : List Score} {name subject baseline : String}

/-- Whether a score is **ahead** of another one: its total is smaller, or the same and given
earlier. Scores come with their places among those given. -/
def isAhead (a b : Score × Nat) : Bool :=
  match a.1.total?, b.1.total? with
  | some x, some y => x.lt y || (x.eq y && decide (a.2 < b.2))
  | _, _ => false

/-- The scores that take part, with their places among those given. -/
def ranked (scores : List Score) : List (Score × Nat) := scores.zipIdx.filter (·.1.isRanked)

/-- A score is the **foremost** of several when it is ahead of all others. -/
def IsForemost (a : Score × Nat) (group : List (Score × Nat)) : Prop :=
  a ∈ group ∧ ∀ b ∈ group, b ≠ a → isAhead a b = true

/-- A language **takes part** when a score of its name has a total above zero. -/
def TakesPart (scores : List Score) (name : String) : Prop :=
  ∃ s ∈ scores, s.language = name ∧ s.isRanked = true

/-- A standing that is found by counting, from the foremost score of the language and the foremost
of all. -/
structure IsStanding (scores : List Score) (own first : Score × Nat) (st : Standing) : Prop where
  rank_eq : st.rank = 1 + ((ranked scores).filter (isAhead · own)).length
  outOf_eq : st.outOf = (ranked scores).length
  total_eq : own.1.total? = some st.total
  fastest_eq : st.fastest = first.1.language
  ratio_eq_one_iff : ∀ fastest, first.1.total? = some fastest →
    (st.ratio = .one ↔ st.total.eq fastest = true)

/-! ### Being ahead -/

theorem isAhead_asymm {a b : Score × Nat} (h : isAhead a b = true) : isAhead b a = false := by
  rw [isAhead] at h ⊢
  cases ha : a.1.total? with
  | none => simp [ha] at h
  | some x =>
    cases hb : b.1.total? with
    | none => simp [ha, hb] at h
    | some y =>
      rw [ha, hb] at h
      cases x with
      | nan => contradiction
      | signed s r hr =>
        cases y with
        | nan => contradiction
        | signed t q hq =>
          simp [lt, eq] at h ⊢
          omega

theorem isAhead_self (a : Score × Nat) : isAhead a a = false := by
  by_contra h
  rw [Bool.not_eq_false] at h
  exact Bool.false_ne_true ((isAhead_asymm h).symm.trans h)

/-- Members of the order are ahead of all later ones. -/
theorem pairwise_order_isAhead (scores : List Score) :
    (order scores).Pairwise fun a b => isAhead a b = true := by
  refine (pairwise_order_totalLe scores).imp_of_mem fun {a b} ha hb h => ?_
  obtain ⟨-, hx, hxpos⟩ := of_mem_order ha
  obtain ⟨-, hy, hypos⟩ := of_mem_order hb
  rw [isAhead, hx, hy]
  obtain ⟨r, hr, hrank⟩ := exists_rank_of_isPositive hxpos
  obtain ⟨q, hq, hrank'⟩ := exists_rank_of_isPositive hypos
  simp only [totalLe, hrank, hrank', Binary64.totalLe, totalPlace, decide_eq_true_eq] at h
  simp only [hrank, hrank', lt, eq, place, Bool.false_eq_true, if_false, Bool.or_eq_true,
    Bool.and_eq_true, decide_eq_true_eq, beq_iff_eq]
  omega

/-- As many members are ahead of a member of the order as come before it. -/
theorem length_filter_isAhead {n : Nat} {own : Score × Nat} (h : (order scores)[n]? = some own) :
    ((ranked scores).filter (isAhead · own)).length = n := by
  have hperm : (order scores).Perm (ranked scores) := List.mergeSort_perm _ _
  have hpairwise := pairwise_order_isAhead scores
  rw [← (hperm.filter _).length_eq]
  obtain ⟨front, back, hsplit, rfl⟩ := exists_split h
  rw [hsplit, List.pairwise_append, List.pairwise_cons] at hpairwise
  obtain ⟨-, ⟨hbehind, -⟩, hbefore⟩ := hpairwise
  have hfront : front.filter (isAhead · own) = front :=
    List.filter_eq_self.mpr fun a ha => hbefore a ha own List.mem_cons_self
  have hback : (own :: back).filter (isAhead · own) = [] := by
    refine List.filter_eq_nil_iff.mpr fun a ha => ?_
    rw [Bool.not_eq_true]
    obtain rfl | ha := List.mem_cons.mp ha
    · exact isAhead_self a
    · exact isAhead_asymm (hbehind a ha)
  rw [hsplit, List.filter_append, hfront, hback, List.append_nil]

/-- Of two members of the order the one that comes first is ahead. -/
theorem isAhead_of_lt {m n : Nat} {a b : Score × Nat} (ha : (order scores)[m]? = some a)
    (hb : (order scores)[n]? = some b) (h : m < n) : isAhead a b = true := by
  obtain ⟨hm, rfl⟩ := List.getElem?_eq_some_iff.mp ha
  obtain ⟨hn, rfl⟩ := List.getElem?_eq_some_iff.mp hb
  exact List.pairwise_iff_getElem.mp (pairwise_order_isAhead scores) m n hm hn h

/-! ### Looking a language up -/

/-- The first member of the order that belongs to a group is the foremost of the group. -/
theorem isForemost_of_first {n : Nat} {own : Score × Nat} {p : Score × Nat → Bool}
    (h : (order scores)[n]? = some own) (hown : p own = true)
    (hfirst : ∀ m < n, ∀ a, (order scores)[m]? = some a → p a = false) :
    IsForemost own ((ranked scores).filter p) := by
  have hperm : (order scores).Perm (ranked scores) := List.mergeSort_perm _ _
  refine ⟨List.mem_filter.mpr ⟨hperm.mem_iff.mp (List.mem_of_getElem? h), hown⟩, ?_⟩
  intro b hb hne
  obtain ⟨hb, hgroup⟩ := List.mem_filter.mp hb
  obtain ⟨m, hm⟩ := List.mem_iff_getElem?.mp (hperm.mem_iff.mpr hb)
  obtain hlt | rfl | hlt := Nat.lt_trichotomy m n
  · exact absurd ((hfirst m hlt b hm).symm.trans hgroup) Bool.false_ne_true
  · exact absurd (Option.some.inj (hm.symm.trans h)) hne
  · exact isAhead_of_lt h hm hlt

/-- The first placing of a language is that of its foremost score. -/
theorem exists_of_get?_eq_some {p : Placing} (h : (ofScores scores).get? name = some p) :
    ∃ n own, (order scores)[n]? = some own ∧
      IsForemost own ((ranked scores).filter (·.1.language = name)) ∧
        p = placing ((order scores).head?.map fun first => (contender first).2)
          (contender own, n) := by
  obtain ⟨hname, n, hn, hp, hfirst⟩ := List.find?_eq_some_iff_getElem.mp h
  have hplacing := getElem?_placings_eq scores n
  rw [List.getElem?_eq_some_iff.mpr ⟨hn, hp⟩] at hplacing
  obtain ⟨own, hown, rfl⟩ := Option.map_eq_some_iff.mp hplacing.symm
  refine ⟨n, own, hown, isForemost_of_first hown hname fun m hm a ha => ?_, rfl⟩
  -- what comes before it is not placed under that name
  have hplacing := getElem?_placings_eq scores m
  rw [ha, List.getElem?_eq_getElem (hm.trans hn)] at hplacing
  have hother := hfirst m hm
  rw [Option.some.inj hplacing, Bool.not_eq_true'] at hother
  exact hother

/-- A language is placed exactly if it takes part. -/
theorem isSome_get?_iff : ((ofScores scores).get? name).isSome = true ↔ TakesPart scores name := by
  rw [get?, List.find?_isSome]
  constructor
  · rintro ⟨p, hp, hname⟩
    obtain ⟨n, hn⟩ := List.mem_iff_getElem?.mp hp
    rw [getElem?_placings_eq] at hn
    obtain ⟨own, hown, rfl⟩ := Option.map_eq_some_iff.mp hn
    have hmem := List.mem_of_getElem? hown
    exact ⟨own.1, List.mem_of_getElem? (of_mem_order hmem).1, of_decide_eq_true hname,
      isRanked_of_mem_order hmem⟩
  · rintro ⟨s, hs, rfl, hranked⟩
    obtain ⟨i, hi⟩ := List.mem_iff_getElem?.mp hs
    have hmem : (s, i) ∈ order scores := by
      refine (List.mergeSort_perm _ _).mem_iff.mpr (List.mem_filter.mpr ⟨?_, hranked⟩)
      exact List.mem_zipIdx_iff_getElem?.mpr hi
    obtain ⟨n, hn⟩ := List.mem_iff_getElem?.mp hmem
    have hplacing := getElem?_placings_eq scores n
    rw [hn] at hplacing
    exact ⟨_, List.mem_of_getElem? hplacing, decide_eq_true rfl⟩

/-! ### Standings -/

/-- The totals of all scores are finite. -/
def AllFinite (scores : List Score) : Prop :=
  ∀ s ∈ scores, ∀ total, s.total? = some total → total.isFinite = true

/-- With finite totals, the totals in the order are durations above zero. -/
private theorem AllFinite.isDuration (h : AllFinite scores) {n : Nat} {own : Score × Nat}
    (hown : (order scores)[n]? = some own) :
    IsDuration (contender own).2 ∧ 0 < (contender own).2.value := by
  obtain ⟨hscore, htotal, hpositive⟩ := of_mem_order (List.mem_of_getElem? hown)
  have hduration := isDuration_of_isPositive (h _ (List.mem_of_getElem? hscore) _ htotal) hpositive
  exact ⟨hduration, hduration.isPositive_iff.mp hpositive⟩

/-- A standing is that of the placing found under its name, seen from the first placing. -/
private theorem exists_of_standing?_eq_some {st : Standing}
    (h : (ofScores scores).standing? subject = some st) :
    ∃ n own first, (order scores)[n]? = some own ∧ (order scores)[0]? = some first ∧
      IsForemost own ((ranked scores).filter (·.1.language = subject)) ∧
      st = ⟨n + 1, (ofScores scores).placings.length, (contender own).2, first.1.language,
        if n = 0 then .one else (contender own).2 / (contender first).2⟩ := by
  obtain ⟨fastest, hfastest, h⟩ := Option.bind_eq_some_iff.mp h
  obtain ⟨p, hp, h⟩ := Option.bind_eq_some_iff.mp h
  obtain ⟨n, own, hown, hforemost, rfl⟩ := exists_of_get?_eq_some hp
  rw [fastest?, List.head?_eq_getElem?, getElem?_placings_eq] at hfastest
  obtain ⟨first, hfirst, rfl⟩ := Option.map_eq_some_iff.mp hfastest
  refine ⟨n, own, first, hown, hfirst, hforemost, ?_⟩
  rw [← Option.some.inj h, List.head?_eq_getElem?, hfirst]
  cases n <;> rfl

theorem isSome_standing?_iff :
    ((ofScores scores).standing? subject).isSome = true ↔ TakesPart scores subject := by
  rw [← isSome_get?_iff, Option.isSome_iff_exists, Option.isSome_iff_exists]
  constructor
  · rintro ⟨st, h⟩
    obtain ⟨fastest, -, h⟩ := Option.bind_eq_some_iff.mp h
    obtain ⟨p, hp, -⟩ := Option.bind_eq_some_iff.mp h
    exact ⟨p, hp⟩
  · rintro ⟨p, hp⟩
    obtain ⟨fastest, hfastest⟩ : ∃ fastest, (ofScores scores).fastest? = some fastest := by
      rw [fastest?, ← Option.isSome_iff_exists, List.isSome_head?, ← List.length_pos_iff]
      exact List.length_pos_of_mem (List.mem_of_find?_eq_some hp)
    exact ⟨_, by rw [standing?, hfastest, hp]; rfl⟩

/-- Standings are found by counting. -/
theorem isStanding_of_standing?_eq_some (hfinite : AllFinite scores) {st : Standing}
    (h : (ofScores scores).standing? subject = some st) :
    ∃ own first, IsForemost own ((ranked scores).filter (·.1.language = subject)) ∧
      IsForemost first (ranked scores) ∧ IsStanding scores own first st := by
  obtain ⟨n, own, first, hown, hfirst, hforemost, rfl⟩ := exists_of_standing?_eq_some h
  obtain ⟨hduration, hpos⟩ := hfinite.isDuration hown
  obtain ⟨hduration', hpos'⟩ := hfinite.isDuration hfirst
  have hleading : IsForemost first (ranked scores) := by
    have hall := isForemost_of_first (p := fun _ => true) hfirst rfl
      fun m hm => absurd hm (Nat.not_lt_zero m)
    rwa [List.filter_true] at hall
  refine ⟨own, first, hforemost, hleading, ?_⟩
  constructor
  · rw [length_filter_isAhead hown, Nat.add_comm]
  · rw [← length_origins, origins, List.length_map, order, List.length_mergeSort, ranked]
  · exact (of_mem_order (List.mem_of_getElem? hown)).2.1
  · rfl
  · intro fastest hfastest
    rw [(of_mem_order (List.mem_of_getElem? hfirst)).2.1] at hfastest
    obtain rfl := Option.some.inj hfastest
    dsimp only
    rw [hduration.eq_iff hduration']
    split
    · rename_i hn
      subst hn
      obtain rfl := Option.some.inj (hown.symm.trans hfirst)
      exact iff_of_true rfl rfl
    · exact hduration.div_eq_one_iff hduration' hpos hpos'

/-! ### Comparisons -/

/-- A comparison takes both totals from the scores that the standings are taken from. -/
private theorem exists_of_compare?_eq_some {c : Comparison}
    (h : (ofScores scores).compare? subject baseline = some c) :
    ∃ m n own other, (order scores)[m]? = some own ∧ (order scores)[n]? = some other ∧
      (∀ st, (ofScores scores).standing? subject = some st → st.rank = m + 1) ∧
      (∀ st, (ofScores scores).standing? baseline = some st → st.rank = n + 1) ∧
      c = .of subject (contender own).2 baseline (contender other).2 := by
  have hrank {name : String} {p : Placing} (hp : (ofScores scores).get? name = some p)
      (st : Standing) (hst : (ofScores scores).standing? name = some st) :
      st.rank = p.position := by
    obtain ⟨fastest, -, hst⟩ := Option.bind_eq_some_iff.mp hst
    obtain ⟨q, hq, hst⟩ := Option.bind_eq_some_iff.mp hst
    obtain rfl := Option.some.inj (hp.symm.trans hq)
    rw [← Option.some.inj hst]
  obtain ⟨p, hp, h⟩ := Option.bind_eq_some_iff.mp h
  obtain ⟨q, hq, h⟩ := Option.bind_eq_some_iff.mp h
  obtain ⟨m, own, hown, hforemost, rfl⟩ := exists_of_get?_eq_some hp
  obtain ⟨n, other, hother, hforemost', rfl⟩ := exists_of_get?_eq_some hq
  have hsubject : own.1.language = subject := of_decide_eq_true (List.mem_filter.mp hforemost.1).2
  have hbaseline : other.1.language = baseline :=
    of_decide_eq_true (List.mem_filter.mp hforemost'.1).2
  refine ⟨m, n, own, other, hown, hother, hrank hp, hrank hq, ?_⟩
  rw [← Option.some.inj h, ← hsubject, ← hbaseline]
  rfl

theorem isSome_compare?_iff : ((ofScores scores).compare? subject baseline).isSome = true ↔
    TakesPart scores subject ∧ TakesPart scores baseline := by
  rw [← isSome_get?_iff, ← isSome_get?_iff, compare?]
  cases (ofScores scores).get? subject <;> cases (ofScores scores).get? baseline <;> simp

/-- The smaller of two totals in the order comes first. -/
private theorem lt_of_value_lt (hfinite : AllFinite scores) {m n : Nat} {own other : Score × Nat}
    (hown : (order scores)[m]? = some own) (hother : (order scores)[n]? = some other)
    (h : (contender own).2.value < (contender other).2.value) : m < n := by
  obtain ⟨hduration, -⟩ := hfinite.isDuration hown
  obtain ⟨hduration', -⟩ := hfinite.isDuration hother
  have htotal := (of_mem_order (List.mem_of_getElem? hown)).2.1
  have htotal' := (of_mem_order (List.mem_of_getElem? hother)).2.1
  have hahead : isAhead own other = true := by
    rw [isAhead, htotal, htotal']
    simp [(hduration.lt_iff hduration').mpr h]
  obtain hlt | rfl | hlt := Nat.lt_trichotomy m n
  · exact hlt
  · obtain rfl := Option.some.inj (hown.symm.trans hother)
    exact absurd h (lt_irrefl _)
  · have hbehind := isAhead_asymm (isAhead_of_lt hother hown hlt)
    exact absurd (hbehind.symm.trans hahead) Bool.false_ne_true

/-- A language that is called the faster one stands before the other. -/
theorem rank_lt_of_isFaster (hfinite : AllFinite scores) {c : Comparison} {st st' : Standing}
    (hc : (ofScores scores).compare? subject baseline = some c)
    (hst : (ofScores scores).standing? subject = some st)
    (hst' : (ofScores scores).standing? baseline = some st') (hfaster : c.isFaster = true) :
    st.rank < st'.rank := by
  obtain ⟨m, n, own, other, hown, hother, hrank, hrank', rfl⟩ := exists_of_compare?_eq_some hc
  obtain ⟨hduration, hpos⟩ := hfinite.isDuration hown
  obtain ⟨hduration', hpos'⟩ := hfinite.isDuration hother
  have hlt := (Comparison.isFaster_of_iff hduration hduration' hpos hpos' _ _).mp hfaster
  rw [hrank st hst, hrank' st' hst']
  exact Nat.succ_lt_succ (lt_of_value_lt hfinite hown hother hlt)

/-- Standings are found by counting, and comparisons agree with them: who is called faster stands
before the other, and who stands behind is not called faster. -/
theorem standing_counts (hfinite : AllFinite scores) :
    (∀ subject,
      (((ofScores scores).standing? subject).isSome = true ↔ TakesPart scores subject) ∧
      ∀ st, (ofScores scores).standing? subject = some st →
        ∃ own first, IsForemost own ((ranked scores).filter (·.1.language = subject)) ∧
          IsForemost first (ranked scores) ∧ IsStanding scores own first st) ∧
    ∀ subject baseline,
      (((ofScores scores).compare? subject baseline).isSome = true ↔
        TakesPart scores subject ∧ TakesPart scores baseline) ∧
      ∀ st st', (ofScores scores).standing? subject = some st →
        (ofScores scores).standing? baseline = some st' →
          (∀ c, (ofScores scores).compare? subject baseline = some c → c.isFaster = true →
            st.rank < st'.rank) ∧
          (st.rank < st'.rank → ∀ c, (ofScores scores).compare? baseline subject = some c →
            c.isFaster = false) := by
  refine ⟨fun subject => ⟨isSome_standing?_iff, fun st => isStanding_of_standing?_eq_some hfinite⟩,
    fun subject baseline => ⟨isSome_compare?_iff, fun st st' hst hst' => ⟨?_, ?_⟩⟩⟩
  · intro c hc hfaster
    exact rank_lt_of_isFaster hfinite hc hst hst' hfaster
  · intro hlt c hc
    rw [← Bool.not_eq_true]
    intro hfaster
    exact hlt.not_gt (rank_lt_of_isFaster hfinite hc hst' hst hfaster)

/-- Of two scores of one name the foremost counts, and of equal totals the earlier one. -/
theorem standing_counts_repeated_name :
    let score (name : String) (total : Nat) : Score := ⟨name, .measured [] (some (.ofNat total))⟩
    let scores := [score "Go" 7, score "C" 5, score "Go" 5, score "Perl" 0]
    let standing : Standing := ⟨2, 3, .ofNat 5, "C", .one⟩
    (ofScores scores).standing? "Go" = some standing ∧ (ofScores scores).standing? "Perl" = none ∧
      ∃ own first, IsForemost own ((ranked scores).filter (·.1.language = "Go")) ∧
        IsForemost first (ranked scores) ∧ IsStanding scores own first standing := by
  intro score scores standing
  have hfinite : AllFinite scores := by
    intro s hs total htotal
    obtain rfl | rfl | rfl | rfl : s = _ ∨ s = _ ∨ s = _ ∨ s = _ := by simpa [scores] using hs
    all_goals
      rw [← Option.some.inj htotal]
      decide +kernel
  have hsorted : sorted scores = [("C", .ofNat 5), ("Go", .ofNat 5), ("Go", .ofNat 7)] := by
    have hzero : (Binary64.ofNat 0).isPositive = false := by decide +kernel
    have hfive : (Binary64.ofNat 5).isPositive = true := by decide +kernel
    have hseven : (Binary64.ofNat 7).isPositive = true := by decide +kernel
    have htie : (Binary64.ofNat 5).totalLe (.ofNat 5) = true := by decide +kernel
    have hless : (Binary64.ofNat 7).totalLe (.ofNat 5) = false := by decide +kernel
    simp [scores, score, sorted, contenders, Score.total?, List.mergeSort,
      List.MergeSort.Internal.splitInTwo, hzero, hfive, hseven, htie, hless]
  have hplacings : ofScores scores = ⟨[⟨1, "C", .ofNat 5, none⟩, ⟨2, "Go", .ofNat 5, some .one⟩,
      ⟨3, "Go", .ofNat 7, some (.ofNat 7 / .ofNat 5)⟩]⟩ := by
    have hone : Binary64.ofNat 5 / .ofNat 5 = .one := by decide +kernel
    simp [ofScores, hsorted, placing, hone]
  have hstanding : (ofScores scores).standing? "Go" = some standing := by
    rw [hplacings]
    rfl
  refine ⟨hstanding, ?_, ((standing_counts hfinite).1 "Go").2 standing hstanding⟩
  rw [hplacings]
  rfl

end Ranking

end Timekeeper
