import Timekeeper.Proofs.Ranking.Origins
import Timekeeper.Proofs.Readout.Extraction
import Timekeeper.Report.Diagnosis
import Timekeeper.Report.Matrix

/-!
# One language does not disturb the others

Two comparisons are made of executions that **agree except** at one place: one language did
something else, printed something else, or is another language altogether. Scores are made of one
execution each, and cells and diagnoses of one score each, so these agree at all other places.

In the ranking the one language may stand anywhere or nowhere. The others are in the same order
either way, so each of them moves by one position at most; and if the one language is not the
fastest either way, the fastest one is the same and so are the ratios of the others.
-/

namespace Timekeeper

/-- Two lists **agree except** at a place when they are equally long and have the same members at
all other places. -/
def AgreeExcept {α : Type} (k : Nat) (xs ys : List α) : Prop :=
  xs.length = ys.length ∧ ∀ i, i ≠ k → xs[i]? = ys[i]?

namespace AgreeExcept

variable {α β : Type} {k : Nat} {xs ys : List α}

theorem map (h : AgreeExcept k xs ys) (f : α → β) : AgreeExcept k (xs.map f) (ys.map f) := by
  refine ⟨by simp [h.1], fun i hi => ?_⟩
  rw [List.getElem?_map, List.getElem?_map, h.2 i hi]

private theorem filter_zipIdx_from (start : Nat) (hlength : xs.length = ys.length)
    (h : ∀ i, start + i ≠ k → xs[i]? = ys[i]?) :
    (xs.zipIdx start).filter (fun x => x.2 ≠ k) = (ys.zipIdx start).filter fun x => x.2 ≠ k := by
  induction xs generalizing ys start with
  | nil =>
    obtain rfl := List.length_eq_zero_iff.mp hlength.symm
    rfl
  | cons x xs ih =>
    cases ys with
    | nil => contradiction
    | cons y ys =>
      have hrest := ih (start + 1) (Nat.succ.inj hlength) fun i hi => by
        simpa using h (i + 1) (by omega)
      rw [List.zipIdx_cons, List.zipIdx_cons, List.filter_cons, List.filter_cons, hrest]
      by_cases hstart : start = k
      · simp [hstart]
      · have hxy : x = y := by simpa using h 0 hstart
        rw [hxy]

/-- Numbered through, the lists are the same but for the one place. -/
theorem filter_zipIdx (h : AgreeExcept k xs ys) :
    xs.zipIdx.filter (fun x => x.2 ≠ k) = ys.zipIdx.filter fun x => x.2 ≠ k :=
  filter_zipIdx_from 0 h.1 fun i hi => h.2 i (by omega)

end AgreeExcept

namespace Ranking

variable {scores scores' : List Score} {k : Nat}

/-- What a ranking tells of the scores that do not come from a place. -/
def others (k : Nat) (scores : List Score) : List (String × Binary64 × Nat) :=
  ((traced scores).filter fun x => x.2 ≠ k).map fun x => (x.1.language, x.1.total, x.2)

theorem others_eq (h : AgreeExcept k scores scores') : others k scores = others k scores' := by
  have hothers (scores : List Score) : others k scores =
      ((order scores).filter fun x => x.2 ≠ k).map fun x =>
        ((contender x).1, (contender x).2, x.2) := by
    have hmap := congrArg (List.filter fun x => x.2.2 ≠ k) (map_traced scores)
    rw [List.filter_map, List.filter_map] at hmap
    exact hmap
  rw [hothers, hothers, filter_order_eq h.filter_zipIdx]

/-- A score from another place has members at the same place of both orders without the one. -/
private theorem exists_common (h : AgreeExcept k scores scores') {i n n' : Nat} {x x' : Score × Nat}
    (hi : i ≠ k) (hx : (order scores)[n]? = some x) (hx' : (order scores')[n']? = some x')
    (hxi : x.2 = i) (hxi' : x'.2 = i) : x = x' ∧ n ≤ n' + 1 ∧ n' ≤ n + 1 := by
  obtain ⟨m, hm, hle, hge⟩ := exists_getElem?_filter (k := k) (nodup_origins scores) hx (hxi ▸ hi)
  obtain ⟨m', hm', hle', hge'⟩ :=
    exists_getElem?_filter (k := k) (nodup_origins scores') hx' (hxi' ▸ hi)
  rw [← filter_order_eq h.filter_zipIdx] at hm'
  have hnodup : (((order scores).filter fun x => x.2 ≠ k).map Prod.snd).Nodup :=
    (nodup_origins scores).sublist (List.filter_sublist.map _)
  have hsame : m = m' := by
    refine (List.getElem?_inj ?_ hnodup).mp ?_
    · rw [List.length_map]
      exact (List.getElem?_eq_some_iff.mp hm).1
    · rw [List.getElem?_map, List.getElem?_map, hm, hm', Option.map_some, Option.map_some, hxi,
        hxi']
  subst hsame
  exact ⟨Option.some.inj (hm.symm.trans hm'), by omega, by omega⟩

/-- Another place moves by one position at most. -/
theorem position_le (h : AgreeExcept k scores scores') {i : Nat} (hi : i ≠ k) {p p' : Placing}
    (hp : (p, i) ∈ traced scores) (hp' : (p', i) ∈ traced scores') :
    p.position ≤ p'.position + 1 ∧ p'.position ≤ p.position + 1 := by
  obtain ⟨n, x, hx, hxi, rfl⟩ := mem_traced.mp hp
  obtain ⟨n', x', hx', hxi', rfl⟩ := mem_traced.mp hp'
  obtain ⟨-, hle, hge⟩ := exists_common h hi hx hx' hxi hxi'
  exact ⟨Nat.succ_le_succ hle, Nat.succ_le_succ hge⟩

/-- The first of an order stays the first when the scores of a place are left out, unless it comes
from that place. -/
private theorem head?_filter_order (h : ∀ p, (p, k) ∈ traced scores → p.position ≠ 1) :
    ((order scores).filter fun x => x.2 ≠ k).head? = (order scores).head? := by
  cases horder : order scores with
  | nil => rfl
  | cons x rest =>
    have hx : x.2 ≠ k := by
      rintro rfl
      refine h _ (mem_traced.mpr ⟨0, x, ?_, rfl, rfl⟩) rfl
      rw [horder]
      rfl
    rw [List.filter_cons_of_pos (by simpa using hx)]
    rfl

private theorem eq_zero_of_head? {n : Nat} {x : Score × Nat} (hx : (order scores)[n]? = some x)
    (hhead : (order scores).head? = some x) : n = 0 := by
  have hlt := (List.getElem?_eq_some_iff.mp hx).1
  refine (List.getElem?_inj (by simpa [origins] using hlt) (nodup_origins scores)).mp ?_
  rw [origins, List.getElem?_map, List.getElem?_map, hx, ← List.head?_eq_getElem?, hhead]

/-- Where the one place is not the fastest either way, the ratios of the others stay. -/
theorem ratio_eq (h : AgreeExcept k scores scores') {i : Nat} (hi : i ≠ k) {p p' : Placing}
    (hp : (p, i) ∈ traced scores) (hp' : (p', i) ∈ traced scores')
    (hfirst : ∀ q, (q, k) ∈ traced scores → q.position ≠ 1)
    (hfirst' : ∀ q, (q, k) ∈ traced scores' → q.position ≠ 1) : p.ratio = p'.ratio := by
  obtain ⟨n, x, hx, hxi, rfl⟩ := mem_traced.mp hp
  obtain ⟨n', x', hx', hxi', rfl⟩ := mem_traced.mp hp'
  obtain ⟨rfl, -, -⟩ := exists_common h hi hx hx' hxi hxi'
  have hhead : (order scores).head? = (order scores').head? := by
    rw [← head?_filter_order hfirst, ← head?_filter_order hfirst', filter_order_eq h.filter_zipIdx]
  have hzero : n = 0 ↔ n' = 0 := by
    constructor
    · rintro rfl
      exact eq_zero_of_head? hx' (hhead ▸ List.head?_eq_getElem?.trans hx)
    · rintro rfl
      exact eq_zero_of_head? hx (hhead ▸ List.head?_eq_getElem?.trans hx')
  rw [placing, placing, hhead]
  simp only [hzero]

end Ranking

/-- Executions that agree except at one place have scores, cells and diagnoses that do. The
rankings have the other languages with the same totals in the same order, each of them at most
one position away, and with the same ratio unless the one language is the fastest. -/
theorem Score.agreeExcept_ofExecution (g : Grammar) (k : Nat) (es es' : List Execution)
    (h : AgreeExcept k es es') :
    let scores := es.map (Score.ofExecution g)
    let scores' := es'.map (Score.ofExecution g)
    AgreeExcept k scores scores' ∧
    (∀ t : Test, AgreeExcept k (scores.map (Report.cell t)) (scores'.map (Report.cell t))) ∧
    AgreeExcept k (scores.map (Report.diagnosisOf g)) (scores'.map (Report.diagnosisOf g)) ∧
    ((Ranking.ofScores scores).HasOrigins scores (Ranking.origins scores) ∧
      (Ranking.ofScores scores').HasOrigins scores' (Ranking.origins scores')) ∧
    Ranking.others k scores = Ranking.others k scores' ∧
    ∀ i, i ≠ k → ∀ p p', (p, i) ∈ Ranking.traced scores → (p', i) ∈ Ranking.traced scores' →
      (p.position ≤ p'.position + 1 ∧ p'.position ≤ p.position + 1) ∧
      ((∀ q, (q, k) ∈ Ranking.traced scores → q.position ≠ 1) →
        (∀ q, (q, k) ∈ Ranking.traced scores' → q.position ≠ 1) → p.ratio = p'.ratio) := by
  intro scores scores'
  have hscores : AgreeExcept k scores scores' := h.map _
  refine ⟨hscores, fun t => hscores.map _, hscores.map _,
    ⟨Ranking.hasOrigins_origins _, Ranking.hasOrigins_origins _⟩, Ranking.others_eq hscores, ?_⟩
  exact fun i hi p p' hp hp' => ⟨Ranking.position_le hscores hi hp hp',
    Ranking.ratio_eq hscores hi hp hp'⟩

/-- In place of a language that could not be run, another one comes that ties with the first. -/
theorem Score.agreeExcept_ofExecution_tie :
    let es : List Execution := [.completed "C" "TOPLAM SURE: 5 ms",
      .failed "Rust" (.toolMissing "rustc"), .completed "Go" "TOPLAM SURE: 7 ms"]
    let es' : List Execution := [.completed "C" "TOPLAM SURE: 5 ms",
      .completed "Zig" "TOPLAM SURE: 5 ms", .completed "Go" "TOPLAM SURE: 7 ms"]
    ∃ g, Grammar.standard = .ok g ∧ AgreeExcept 1 es es' ∧
      es.map (fun e => (Score.ofExecution g e).total?) =
        [some (.ofNat 5), none, some (.ofNat 7)] ∧
      es'.map (fun e => (Score.ofExecution g e).total?) =
        [some (.ofNat 5), some (.ofNat 5), some (.ofNat 7)] ∧
      Ranking.others 1 (es.map (Score.ofExecution g)) =
        Ranking.others 1 (es'.map (Score.ofExecution g)) := by
  intro es es'
  have h : AgreeExcept 1 es es' := by
    refine ⟨rfl, fun i hi => ?_⟩
    match i with
    | 0 | 2 => rfl
    | n + 3 => rfl
  refine ⟨PlainTable.standard.grammar, PlainTable.standard_eq, h, ?_, ?_,
    (agreeExcept_ofExecution _ 1 es es' h).2.2.2.2.1⟩
  · simp only [es, List.map, ofExecution, PlainTable.ofText_grammar]
    decide +kernel
  · simp only [es', List.map, ofExecution, PlainTable.ofText_grammar]
    decide +kernel

end Timekeeper
