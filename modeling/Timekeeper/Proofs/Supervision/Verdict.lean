import Timekeeper.Supervision
import Mathlib.Data.List.Basic

/-!
# Exit or expiry

A look that finds a child running below its bound leaves everything open (`Look.Early`), and the
first look that is not early settles the watch (`Watch.ofLooks_cases`): nothing was done before but
looking and resting, and no later look is made. So what a watch concludes is told by its looks in
their order, whatever the clock did between them (`Watch.Settled`). In particular a child that was
found exited has not timed out, even if the look came after the bound, and a watch comes to an end
as soon as its clock reaches the bound (`Watch.settled_and_ends`).
-/

namespace Timekeeper

variable {α : Type} {bound : Nat}

/-! ### Single looks -/

namespace Look

variable {look : Look α}

/-- An **early** look finds the child running below its bound. -/
def Early (bound : Nat) (look : Look α) : Prop := ∃ elapsed < bound, look = .running elapsed

theorem not_early_iff :
    ¬look.Early bound ↔ ∀ elapsed, look = .running elapsed → bound ≤ elapsed := by
  constructor
  · intro h elapsed hlook
    exact Nat.le_of_not_lt fun hlt => h ⟨elapsed, hlt, hlook⟩
  · rintro h ⟨elapsed, hlt, hlook⟩
    exact Nat.not_lt_of_le (h elapsed hlook) hlt

/-- Only an early look does not conclude anything. -/
theorem verdict?_eq_none_iff : look.verdict? bound = none ↔ look.Early bound := by
  cases look with
  | running elapsed => simp [verdict?, Early]
  | exited status => simp [verdict?, Early]
  | failed fault => simp [verdict?, Early]

theorem verdict?_eq_exited_iff {status : α} :
    look.verdict? bound = some (.exited status) ↔ look = .exited status := by
  cases look <;> simp [verdict?]

theorem verdict?_eq_expired_iff : look.verdict? bound = some .expired ↔
    ∃ elapsed, look = .running elapsed ∧ bound ≤ elapsed := by
  cases look <;> simp [verdict?]

theorem verdict?_eq_failed_iff {fault : Fault} :
    look.verdict? bound = some (.failed fault) ↔ look = .failed fault := by
  cases look <;> simp [verdict?]

end Look

namespace Watch

variable {looks earlier : List (Look α)}

/-! ### Series of looks -/

/-- What is done for looks that are all early. -/
def patience (looks : List (Look α)) : List Measure := looks.flatMap fun _ => [.look, .rest]

theorem ofLooks_cons_of_early {look : Look α} (h : look.Early bound) (later : List (Look α)) :
    ofLooks bound (look :: later) = (ofLooks bound later).after [.look, .rest] := by
  rw [ofLooks, Look.verdict?_eq_none_iff.mpr h]

theorem ofLooks_cons_of_verdict {look : Look α} {verdict : Verdict α}
    (h : look.verdict? bound = some verdict) (later : List (Look α)) :
    ofLooks bound (look :: later) = ⟨.look :: verdict.measures, some verdict⟩ := by
  rw [ofLooks, h]

/-- Early looks change nothing but that they were made. -/
theorem ofLooks_append (h : ∀ look ∈ earlier, look.Early bound) (later : List (Look α)) :
    ofLooks bound (earlier ++ later) = (ofLooks bound later).after (patience earlier) := by
  induction earlier with
  | nil => rfl
  | cons look earlier ih =>
    obtain ⟨hlook, hearlier⟩ := List.forall_mem_cons.mp h
    rw [List.cons_append, ofLooks_cons_of_early hlook, ih hearlier]
    rfl

/-- Either all looks are early, or the first one that is not settles the watch. -/
theorem ofLooks_cases (bound : Nat) (looks : List (Look α)) :
    ((∀ look ∈ looks, look.Early bound) ∧ ofLooks bound looks = ⟨patience looks, none⟩) ∨
      ∃ earlier look later verdict, looks = earlier ++ look :: later ∧
        (∀ look ∈ earlier, look.Early bound) ∧ look.verdict? bound = some verdict ∧
        ofLooks bound looks = ⟨patience earlier ++ .look :: verdict.measures, some verdict⟩ := by
  induction looks with
  | nil => exact .inl ⟨List.forall_mem_nil _, rfl⟩
  | cons look looks ih =>
    cases hverdict : look.verdict? bound with
    | some verdict =>
      exact .inr ⟨[], look, looks, verdict, rfl, List.forall_mem_nil _, hverdict,
        ofLooks_cons_of_verdict hverdict looks⟩
    | none =>
      have hlook := Look.verdict?_eq_none_iff.mp hverdict
      rw [ofLooks_cons_of_early hlook]
      obtain ⟨hlooks, heq⟩ | ⟨earlier, last, later, verdict, rfl, hearlier, hlast, heq⟩ := ih
      · refine .inl ⟨List.forall_mem_cons.mpr ⟨hlook, hlooks⟩, ?_⟩
        rw [heq]
        rfl
      · refine .inr ⟨look :: earlier, last, later, verdict, rfl,
          List.forall_mem_cons.mpr ⟨hlook, hearlier⟩, hlast, ?_⟩
        rw [heq]
        rfl

theorem verdict_eq_none_iff :
    (ofLooks bound looks).verdict = none ↔ ∀ look ∈ looks, look.Early bound := by
  obtain ⟨hearly, heq⟩ | ⟨earlier, look, later, verdict, rfl, -, hlook, heq⟩ :=
    ofLooks_cases bound looks
  · rw [heq]
    exact iff_of_true rfl hearly
  · rw [heq]
    refine iff_of_false (Option.some_ne_none verdict) fun h => ?_
    have hearly := h look (List.mem_append_right earlier List.mem_cons_self)
    rw [Look.verdict?_eq_none_iff.mpr hearly] at hlook
    contradiction

/-- Another look decides a watch that is still open. -/
theorem verdict_concat (h : (ofLooks bound looks).verdict = none) (look : Look α) :
    (ofLooks bound (looks ++ [look])).verdict = look.verdict? bound := by
  rw [ofLooks_append (verdict_eq_none_iff.mp h)]
  cases hlook : look.verdict? bound with
  | none =>
    rw [ofLooks_cons_of_early (Look.verdict?_eq_none_iff.mp hlook)]
    rfl
  | some verdict =>
    rw [ofLooks_cons_of_verdict hlook]
    rfl

/-- A verdict is that of a look behind early ones. -/
theorem verdict_eq_some_iff {verdict : Verdict α} :
    (ofLooks bound looks).verdict = some verdict ↔
      ∃ earlier look later, looks = earlier ++ look :: later ∧
        (∀ look ∈ earlier, look.Early bound) ∧ look.verdict? bound = some verdict := by
  constructor
  · intro h
    obtain ⟨-, heq⟩ | ⟨earlier, look, later, verdict', hlooks, hearlier, hlook, heq⟩ :=
      ofLooks_cases bound looks
    · rw [heq] at h
      contradiction
    · rw [heq] at h
      exact ⟨earlier, look, later, hlooks, hearlier, hlook.trans h⟩
  · rintro ⟨earlier, look, later, rfl, hearlier, hlook⟩
    rw [ofLooks_append hearlier, ofLooks_cons_of_verdict hlook]
    rfl

/-- A verdict that only one answer leads to. -/
theorem verdict_eq_some_iff_of_look {verdict : Verdict α} {answer : Look α}
    (h : ∀ look : Look α, look.verdict? bound = some verdict ↔ look = answer) :
    (ofLooks bound looks).verdict = some verdict ↔
      ∃ earlier later, looks = earlier ++ answer :: later ∧
        ∀ look ∈ earlier, look.Early bound := by
  rw [verdict_eq_some_iff]
  constructor
  · rintro ⟨earlier, look, later, hlooks, hearlier, hlook⟩
    obtain rfl := (h look).mp hlook
    exact ⟨earlier, later, hlooks, hearlier⟩
  · rintro ⟨earlier, later, hlooks, hearlier⟩
    exact ⟨earlier, answer, later, hlooks, hearlier, (h answer).mpr rfl⟩

/-- A look that finds the bound passed settles the watch if those before it find the child running,
since one of them that is not early finds the bound passed itself. -/
theorem verdict_of_running (h : ∀ look ∈ earlier, ∃ elapsed, look = Look.running elapsed)
    {elapsed : Nat} (hbound : bound ≤ elapsed) (later : List (Look α)) :
    (ofLooks bound (earlier ++ .running elapsed :: later)).verdict = some .expired := by
  induction earlier with
  | nil =>
    rw [List.nil_append,
      ofLooks_cons_of_verdict (Look.verdict?_eq_expired_iff.mpr ⟨elapsed, rfl, hbound⟩)]
  | cons look earlier ih =>
    obtain ⟨⟨before, rfl⟩, hearlier⟩ := List.forall_mem_cons.mp h
    rw [List.cons_append]
    obtain hearly | hpassed := Nat.lt_or_ge before bound
    · rw [ofLooks_cons_of_early ⟨before, hearly, rfl⟩]
      exact ih hearlier
    · rw [ofLooks_cons_of_verdict (Look.verdict?_eq_expired_iff.mpr ⟨before, rfl, hpassed⟩)]

/-! ### What is done -/

/-- How many looks were made. -/
def looked (w : Watch α) : Nat := w.measures.count .look

theorem not_mem_patience {measure : Measure} (hlook : measure ≠ .look) (hrest : measure ≠ .rest)
    (looks : List (Look α)) : measure ∉ patience looks := by
  intro hmem
  obtain ⟨-, -, hmem⟩ := List.mem_flatMap.mp hmem
  simp [hlook, hrest] at hmem

theorem kill_await_not_mem_patience (looks : List (Look α)) :
    Measure.kill ∉ patience looks ∧ Measure.await ∉ patience looks :=
  ⟨not_mem_patience (by decide) (by decide) looks, not_mem_patience (by decide) (by decide) looks⟩

theorem count_look_patience (looks : List (Look α)) :
    (patience looks).count .look = looks.length := by
  induction looks with
  | nil => rfl
  | cons look looks ih =>
    have hcons : patience (look :: looks) = .look :: .rest :: patience looks := rfl
    rw [hcons, List.count_cons_self, List.count_cons_of_ne (by decide), ih, List.length_cons]

/-- A child whose bound has passed is killed and awaited after the last look. -/
theorem measures_of_expired (h : (ofLooks bound looks).verdict = some .expired) :
    ∃ earlier : List (Look α),
      (ofLooks bound looks).measures = patience earlier ++ [.look] ++ [.kill, .await] := by
  obtain ⟨-, heq⟩ | ⟨earlier, look, later, verdict, -, -, -, heq⟩ := ofLooks_cases bound looks
  · rw [heq] at h
    contradiction
  · rw [heq] at h ⊢
    obtain rfl := Option.some.inj h
    exact ⟨earlier, by rw [List.append_assoc]; rfl⟩

/-- Nothing but looking is done to any other child. -/
theorem measures_of_not_expired (h : (ofLooks bound looks).verdict ≠ some .expired) :
    ∃ earlier : List (Look α), (ofLooks bound looks).measures = patience earlier ∨
      (ofLooks bound looks).measures = patience earlier ++ [.look] := by
  obtain ⟨-, heq⟩ | ⟨earlier, look, later, verdict, -, -, -, heq⟩ := ofLooks_cases bound looks
  · exact ⟨looks, .inl (by rw [heq])⟩
  · rw [heq] at h
    refine ⟨earlier, .inr ?_⟩
    rw [heq]
    cases verdict with
    | expired => contradiction
    | exited status => rfl
    | failed fault => rfl

theorem kill_await_not_mem (earlier : List (Look α)) :
    Measure.kill ∉ patience earlier ++ [.look] ∧ Measure.await ∉ patience earlier ++ [.look] := by
  obtain ⟨hkill, hawait⟩ := kill_await_not_mem_patience earlier
  exact ⟨List.not_mem_append hkill (by decide), List.not_mem_append hawait (by decide)⟩

theorem head?_measures (hne : looks ≠ []) :
    (ofLooks bound looks).measures.head? = some .look := by
  obtain ⟨look, later, rfl⟩ := List.exists_cons_of_ne_nil hne
  cases hverdict : look.verdict? bound with
  | some verdict =>
    rw [ofLooks_cons_of_verdict hverdict]
    rfl
  | none =>
    rw [ofLooks_cons_of_early (Look.verdict?_eq_none_iff.mp hverdict)]
    rfl

/-- A look that was made and is not early is the last one. -/
theorem verdict_of_getElem? {i : Nat} {look : Look α} {verdict : Verdict α}
    (hi : i < (ofLooks bound looks).looked) (hlook : looks[i]? = some look)
    (hverdict : look.verdict? bound = some verdict) :
    (ofLooks bound looks).verdict = some verdict := by
  have hnot : ¬look.Early bound := by
    rw [← Look.verdict?_eq_none_iff, hverdict]
    exact Option.some_ne_none verdict
  obtain ⟨hearly, -⟩ | ⟨earlier, last, later, verdict', rfl, hearlier, hlast, heq⟩ :=
    ofLooks_cases bound looks
  · exact absurd (hearly look (List.mem_of_getElem? hlook)) hnot
  · have hlooked : (ofLooks bound (earlier ++ last :: later)).looked = earlier.length + 1 := by
      have hmeasures : verdict'.measures.count .look = 0 := by cases verdict' <;> rfl
      rw [looked, heq, List.count_append, count_look_patience, List.count_cons_self, hmeasures]
    rw [hlooked] at hi
    obtain hlt | rfl := Nat.lt_or_eq_of_le (Nat.le_of_lt_succ hi)
    · rw [List.getElem?_append_left hlt] at hlook
      exact absurd (hearlier look (List.mem_of_getElem? hlook)) hnot
    · rw [List.getElem?_append_right (Nat.le_refl _), Nat.sub_self,
        List.getElem?_cons_zero] at hlook
      rw [heq, ← hlast, Option.some.inj hlook, hverdict]

/-! ### Settled watches -/

/-- A watch is **settled** by its looks if they tell what it concludes and what it does. -/
structure Settled (bound : Nat) (looks : List (Look α)) (w : Watch α) : Prop where
  /-- The child has exited if the first look that is not early finds it so. -/
  exited_iff : ∀ status, w.verdict = some (.exited status) ↔
    ∃ earlier later, looks = earlier ++ .exited status :: later ∧
      ∀ look ∈ earlier, ∃ elapsed < bound, look = .running elapsed
  /-- The bound has passed if a look finds so before there is another answer. -/
  expired_iff : w.verdict = some .expired ↔
    ∃ earlier elapsed later, looks = earlier ++ .running elapsed :: later ∧ bound ≤ elapsed ∧
      ∀ look ∈ earlier, ∃ elapsed, look = .running elapsed
  /-- The watch fails if the first look that is not early does. -/
  failed_iff : ∀ fault, w.verdict = some (.failed fault) ↔
    ∃ earlier later, looks = earlier ++ .failed fault :: later ∧
      ∀ look ∈ earlier, ∃ elapsed < bound, look = .running elapsed
  /-- The last that is done to a child whose bound has passed is to kill it and to wait for it. -/
  killed : w.verdict = some .expired → ∃ before, w.measures = before ++ [.kill, .await] ∧
    Measure.kill ∉ before ∧ Measure.await ∉ before
  /-- No other child is killed or waited for. -/
  spared : w.verdict ≠ some .expired → Measure.kill ∉ w.measures ∧ Measure.await ∉ w.measures
  /-- There is a look, whatever the bound is, and it comes first. -/
  looks_first : looks ≠ [] → w.measures.head? = some .look
  /-- There is no verdict without a look. -/
  looked_pos : w.verdict ≠ none → 0 < w.looked
  /-- A child that was found exited has exited, however late it was found so. -/
  found_exited : ∀ i status, i < w.looked → looks[i]? = some (.exited status) →
    w.verdict = some (.exited status)

theorem settled_ofLooks (bound : Nat) (looks : List (Look α)) :
    Settled bound looks (ofLooks bound looks) := by
  constructor
  · exact fun status => verdict_eq_some_iff_of_look fun look => Look.verdict?_eq_exited_iff
  · constructor
    · intro h
      obtain ⟨earlier, look, later, hlooks, hearlier, hlook⟩ := verdict_eq_some_iff.mp h
      obtain ⟨elapsed, rfl, hbound⟩ := Look.verdict?_eq_expired_iff.mp hlook
      refine ⟨earlier, elapsed, later, hlooks, hbound, fun look hmem => ?_⟩
      obtain ⟨before, -, hrunning⟩ := hearlier look hmem
      exact ⟨before, hrunning⟩
    · rintro ⟨earlier, elapsed, later, rfl, hbound, hearlier⟩
      exact verdict_of_running hearlier hbound later
  · exact fun fault => verdict_eq_some_iff_of_look fun look => Look.verdict?_eq_failed_iff
  · intro h
    obtain ⟨earlier, heq⟩ := measures_of_expired h
    exact ⟨_, heq, kill_await_not_mem earlier⟩
  · intro h
    obtain ⟨earlier, heq | heq⟩ := measures_of_not_expired h
    · rw [heq]
      exact kill_await_not_mem_patience earlier
    · rw [heq]
      exact kill_await_not_mem earlier
  · exact head?_measures
  · intro h
    have hne : looks ≠ [] := by
      rintro rfl
      exact h rfl
    exact List.count_pos_iff.mpr (List.mem_of_head? (head?_measures hne))
  · intro i status hi hlook
    exact verdict_of_getElem? hi hlook rfl

/-! ### Schedules -/

/-- A verdict is not changed by further looks. -/
theorem ofLooks_append_of_verdict (h : (ofLooks bound looks).verdict ≠ none)
    (later : List (Look α)) : ofLooks bound (looks ++ later) = ofLooks bound looks := by
  obtain ⟨-, heq⟩ | ⟨earlier, look, between, verdict, rfl, hearlier, hlook, -⟩ :=
    ofLooks_cases bound looks
  · rw [heq] at h
    exact absurd rfl h
  · rw [List.append_assoc, List.cons_append, ofLooks_append hearlier, ofLooks_append hearlier,
      ofLooks_cons_of_verdict hlook, ofLooks_cons_of_verdict hlook]

/-- The first looks of a schedule without an end. -/
def firstLooks (schedule : Nat → Look α) (count : Nat) : List (Look α) :=
  (List.range count).map schedule

/-- Some looks of a schedule suffice exactly if one of them does not find the child running below
its bound. -/
theorem verdict_firstLooks_ne_none_iff (schedule : Nat → Look α) (count : Nat) :
    (ofLooks bound (firstLooks schedule count)).verdict ≠ none ↔
      ∃ i < count, ∀ elapsed, schedule i = .running elapsed → bound ≤ elapsed := by
  rw [ne_eq, verdict_eq_none_iff, firstLooks, List.forall_mem_map]
  simp only [List.mem_range, not_forall, exists_prop, Look.not_early_iff]

/-- Every watch is settled by its looks. It ends with the first look that is not early, and if its
clock reaches the bound, there is one. -/
theorem settled_and_ends (bound : Nat) :
    (∀ looks : List (Look α), Settled bound looks (ofLooks bound looks)) ∧
    (∀ looks later : List (Look α), (ofLooks bound looks).verdict ≠ none →
      ofLooks bound (looks ++ later) = ofLooks bound looks) ∧
    ∀ (schedule : Nat → Look α) (count : Nat),
      (ofLooks bound (firstLooks schedule count)).verdict ≠ none ↔
        ∃ i < count, ∀ elapsed, schedule i = .running elapsed → bound ≤ elapsed :=
  ⟨settled_ofLooks bound, fun _ later h => ofLooks_append_of_verdict h later,
    verdict_firstLooks_ne_none_iff⟩

/-- Here the child exits after its bound, but before the look that would find the bound passed. -/
example : ofLooks 15 [.running 0, .running 10, .exited 3] =
    ⟨[.look, .rest, .look, .rest, .look], some (.exited 3)⟩ := rfl

end Watch

end Timekeeper
