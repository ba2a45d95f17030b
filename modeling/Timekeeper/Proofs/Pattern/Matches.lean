import Timekeeper.Proofs.Pattern.Runs

/-!
# Matches without preference

`Plan.run` tries ways of matching in order of preference. Which ways there are is said here
without the order: a plan **matches** from one cursor to another, and leaves some captures behind
(`Plan.Matches`). What a run accepts is one of these matches (`Plan.exists_matches_of_run`), and
what a search finds is one that begins at a place of the text (`Plan.exists_matches_of_search?`).

No match forgets what was remembered before it (`Plan.Matches.suffix`), so a plan that cannot
match without passing through a capture leaves a text under the name of that capture.
-/

namespace Timekeeper

namespace Pattern

/-! ### Matches -/

/-- A way from a cursor with some captures to a cursor with some captures. -/
abbrev Way := Cursor → Captures → Cursor → Captures → Prop

/-- A way taken so many times. -/
def Way.times (w : Way) : Nat → Way
  | 0 => fun c s c' s' => c' = c ∧ s' = s
  | n + 1 => fun c s c' s' => ∃ c₁ s₁, w c s c₁ s₁ ∧ times w n c₁ s₁ c' s'

/-- The ways in which a plan can match, whichever of them is preferred. -/
def Plan.Matches : Plan → Way
  | empty => fun c s c' s' => c' = c ∧ s' = s
  | one test => fun c s c' s' => s' = s ∧ ∃ d, c.next? = some (d, c') ∧ test d = true
  | condition q => fun c s c' s' =>
    c' = c ∧ s' = s ∧ q.holds c.before c.rest.head? = true
  | repeated least most _ body => fun c s c' s' =>
    ∃ n, least ≤ n ∧ (∀ m ∈ most, n ≤ max least m) ∧ Way.times body.Matches n c s c' s'
  | capture name body => fun c s c' s' =>
    ∃ s₁, body.Matches c s c' s₁ ∧ s' = ⟨name, c.rest, c.left - c'.left⟩ :: s₁
  | sequence first second => fun c s c' s' =>
    ∃ c₁ s₁, first.Matches c s c₁ s₁ ∧ second.Matches c₁ s₁ c' s'
  | choice first second => fun c s c' s' =>
    first.Matches c s c' s' ∨ second.Matches c s c' s'

theorem Way.times_add {w : Way} {m n : Nat} {c c₁ c' : Cursor} {s s₁ s' : Captures}
    (h : w.times m c s c₁ s₁) (h' : w.times n c₁ s₁ c' s') : w.times (m + n) c s c' s' := by
  induction m generalizing c s with
  | zero =>
    obtain ⟨rfl, rfl⟩ := h
    rwa [Nat.zero_add]
  | succ m ih =>
    obtain ⟨c₂, s₂, hstep, hrest⟩ := h
    rw [Nat.add_right_comm]
    exact ⟨c₂, s₂, hstep, ih hrest⟩

theorem Plan.matches_or (p q : Plan) : (p.or q).Matches = (choice p q).Matches := by
  fun_cases Plan.or p q with
  | case2 => rfl
  | case1 f g =>
    funext c s c' s'
    simp only [Matches, Bool.or_eq_true, and_or_left, exists_or]

/-! ### Runs find matches -/

section Runs

variable {α : Type} {step : Goal α → Goal α} {w : Way} {greedy : Bool} {k : Goal α}
  {c : Cursor} {s : Captures} {x : α}

/-- A goal is **reached** along a way when it accepts at the end of it. -/
def Reached (w : Way) (c : Cursor) (s : Captures) (k : Goal α) (x : α) : Prop :=
  ∃ c' s', w c s c' s' ∧ k c' s' = some x

theorem of_prefer_eq_some {first : Bool} {a b : Goal α}
    (h : Goal.prefer first a b c s = some x) : a c s = some x ∨ b c s = some x := by
  rw [Goal.prefer] at h
  split at h <;> split at h <;> simp_all

variable (hstep : ∀ (k : Goal α) (c : Cursor) (s : Captures) (x : α),
  step k c s = some x → Reached w c s k x)

include hstep

private theorem reached_times {n : Nat} (h : Goal.times step n k c s = some x) :
    Reached (w.times n) c s k x := by
  induction n generalizing c s with
  | zero => exact ⟨c, s, ⟨rfl, rfl⟩, h⟩
  | succ n ih =>
    obtain ⟨c₁, s₁, hfirst, h₁⟩ := hstep _ c s x h
    obtain ⟨c', s', hrest, hk⟩ := ih h₁
    exact ⟨c', s', ⟨c₁, s₁, hfirst, hrest⟩, hk⟩

private theorem reached_upTo {n : Nat} (h : Goal.upTo step greedy n k c s = some x) :
    ∃ m ≤ n, Reached (w.times m) c s k x := by
  induction n generalizing c s with
  | zero => exact ⟨0, le_rfl, c, s, ⟨rfl, rfl⟩, h⟩
  | succ n ih =>
    obtain hmore | hstop := of_prefer_eq_some h
    · obtain ⟨c₁, s₁, hfirst, h₁⟩ := hstep _ c s x hmore
      obtain ⟨m, hm, c', s', hrest, hk⟩ := ih h₁
      exact ⟨m + 1, by omega, c', s', ⟨c₁, s₁, hfirst, hrest⟩, hk⟩
    · exact ⟨0, by omega, c, s, ⟨rfl, rfl⟩, hstop⟩

private theorem reached_rounds {n : Nat} (h : Goal.rounds step greedy k n c s = some x) :
    ∃ m, Reached (w.times (m + 1)) c s k x := by
  induction n generalizing c s with
  | zero => contradiction
  | succ n ih =>
    obtain ⟨c₁, s₁, hfirst, h₁⟩ := hstep _ c s x h
    -- a round that consumes nothing is refused
    dsimp only at h₁
    split at h₁
    · obtain hmore | hstop := of_prefer_eq_some h₁
      · obtain ⟨m, c', s', hrest, hk⟩ := ih hmore
        exact ⟨m + 1, c', s', ⟨c₁, s₁, hfirst, hrest⟩, hk⟩
      · exact ⟨0, c₁, s₁, ⟨c₁, s₁, hfirst, rfl, rfl⟩, hstop⟩
    · contradiction

private theorem reached_onceOrMore (h : Goal.onceOrMore step greedy k c s = some x) :
    ∃ m, Reached (w.times (m + 1)) c s k x := by
  obtain ⟨c₁, s₁, hfirst, h₁⟩ := hstep _ c s x h
  have hone : w.times 1 c s c₁ s₁ := ⟨c₁, s₁, hfirst, rfl, rfl⟩
  dsimp only at h₁
  split at h₁
  · obtain hmore | hstop := of_prefer_eq_some h₁
    · obtain ⟨m, c', s', hrest, hk⟩ := reached_rounds hstep hmore
      exact ⟨m + 1, c', s', ⟨c₁, s₁, hfirst, hrest⟩, hk⟩
    · exact ⟨0, c₁, s₁, hone, hstop⟩
  · exact ⟨0, c₁, s₁, hone, h₁⟩

private theorem reached_many {least : Nat} {most : Option Nat}
    (h : Goal.many step greedy k least most c s = some x) :
    ∃ n, least ≤ n ∧ (∀ m ∈ most, n ≤ max least m) ∧ Reached (w.times n) c s k x := by
  cases most with
  | some most =>
    obtain ⟨c₁, s₁, hleast, h₁⟩ := reached_times hstep h
    obtain ⟨m, hm, c', s', hmore, hk⟩ := reached_upTo hstep h₁
    refine ⟨least + m, by omega, fun _ hmost => ?_, c', s', Way.times_add hleast hmore, hk⟩
    obtain rfl := Option.mem_some_iff.mp hmost
    omega
  | none =>
    cases least with
    | zero =>
      obtain hmore | hstop := of_prefer_eq_some h
      · obtain ⟨m, hreached⟩ := reached_onceOrMore hstep hmore
        exact ⟨m + 1, by omega, by simp, hreached⟩
      · exact ⟨0, le_rfl, by simp, c, s, ⟨rfl, rfl⟩, hstop⟩
    | succ least =>
      obtain ⟨c₁, s₁, hleast, h₁⟩ := reached_times hstep h
      obtain ⟨m, c', s', hmore, hk⟩ := reached_onceOrMore hstep h₁
      exact ⟨least + (m + 1), by omega, by simp, c', s', Way.times_add hleast hmore, hk⟩

end Runs

/-- What a run accepts is a match that its goal accepts. -/
theorem Plan.exists_matches_of_run {α : Type} {p : Plan} {k : Goal α} {c : Cursor} {s : Captures}
    {x : α} (h : p.run k c s = some x) : ∃ c' s', p.Matches c s c' s' ∧ k c' s' = some x := by
  induction p generalizing k c s x with
  | empty => exact ⟨c, s, ⟨rfl, rfl⟩, h⟩
  | one test =>
    rw [run] at h
    dsimp only at h
    split at h
    case h_1 d c' hnext =>
      obtain ⟨htest, hk⟩ : test d = true ∧ k c' s = some x := by simpa using h
      exact ⟨c', s, ⟨rfl, d, hnext, htest⟩, hk⟩
    case h_2 => contradiction
  | condition q =>
    obtain ⟨hholds, hk⟩ : q.holds c.before c.rest.head? = true ∧ k c s = some x := by
      simpa [run] using h
    exact ⟨c, s, ⟨rfl, rfl, hholds⟩, hk⟩
  | repeated least most greedy body ih =>
    obtain ⟨n, hleast, hmost, c', s', hrounds, hk⟩ :=
      reached_many (w := body.Matches) (fun _ _ _ _ => ih) h
    exact ⟨c', s', ⟨n, hleast, hmost, hrounds⟩, hk⟩
  | capture name body ih =>
    obtain ⟨c', s₁, hbody, hk⟩ := ih h
    exact ⟨c', _, ⟨s₁, hbody, rfl⟩, hk⟩
  | sequence first second ih₁ ih₂ =>
    obtain ⟨c₁, s₁, hfirst, h₁⟩ := ih₁ h
    obtain ⟨c', s', hsecond, hk⟩ := ih₂ h₁
    exact ⟨c', s', ⟨c₁, s₁, hfirst, hsecond⟩, hk⟩
  | choice first second ih₁ ih₂ =>
    obtain h | h := of_prefer_eq_some h
    · obtain ⟨c', s', hfirst, hk⟩ := ih₁ h
      exact ⟨c', s', .inl hfirst, hk⟩
    · obtain ⟨c', s', hsecond, hk⟩ := ih₂ h
      exact ⟨c', s', .inr hsecond, hk⟩

/-- What a search finds begins at a place of the text. -/
theorem Plan.exists_captures?_of_search? {p : Plan} {text : List Char} {captures : Captures}
    (h : p.search? text = some captures) :
    ∃ n ≤ text.length, p.captures? ((Cursor.ofText text).advance n) = some captures := by
  have hfrom (n : Nat) (c : Cursor) (h : p.searchFrom n c = some captures) :
      ∃ m ≤ n, p.captures? (c.advance m) = some captures := by
    induction n generalizing c with
    | zero => exact ⟨0, le_rfl, h⟩
    | succ n ih =>
      rw [searchFrom] at h
      split at h
      · rename_i found hfound
        exact ⟨0, by omega, hfound.trans h⟩
      · split at h
        · rename_i d c' hnext
          obtain ⟨m, hm, hfound⟩ := ih c' h
          refine ⟨m + 1, by omega, ?_⟩
          rwa [Cursor.advance, hnext]
        · contradiction
  exact hfrom text.length (.ofText text) h

/-! ### What matches remember -/

theorem Way.suffix_of_times {w : Way} (hw : ∀ c s c' s', w c s c' s' → s <:+ s') {n : Nat}
    {c c' : Cursor} {s s' : Captures} (h : w.times n c s c' s') : s <:+ s' := by
  induction n generalizing c s with
  | zero => exact h.2 ▸ List.suffix_refl s
  | succ n ih =>
    obtain ⟨c₁, s₁, hfirst, hrest⟩ := h
    exact (hw c s c₁ s₁ hfirst).trans (ih hrest)

/-- A match forgets nothing. -/
theorem Plan.Matches.suffix {p : Plan} {c c' : Cursor} {s s' : Captures}
    (h : p.Matches c s c' s') : s <:+ s' := by
  induction p generalizing c s c' s' with
  | empty => exact h.2 ▸ List.suffix_refl s
  | one test => exact h.1 ▸ List.suffix_refl s
  | condition q => exact h.2.1 ▸ List.suffix_refl s
  | repeated least most greedy body ih =>
    obtain ⟨n, -, -, hrounds⟩ := h
    exact Way.suffix_of_times (fun _ _ _ _ => ih) hrounds
  | capture name body ih =>
    obtain ⟨s₁, hbody, rfl⟩ := h
    exact (ih hbody).trans (List.suffix_cons _ _)
  | sequence first second ih₁ ih₂ =>
    obtain ⟨c₁, s₁, hfirst, hsecond⟩ := h
    exact (ih₁ hfirst).trans (ih₂ hsecond)
  | choice first second ih₁ ih₂ =>
    obtain hfirst | hsecond := h
    · exact ih₁ hfirst
    · exact ih₂ hsecond

/-- What was remembered last under a name is its text. -/
theorem Captures.text?_cons {captures : Captures} {name : List Char} {x : Capture}
    (h : x.name = name) : Captures.text? (x :: captures) name = some (x.source.take x.length) := by
  rw [text?, List.find?_cons_of_pos (by simpa using h), Option.map_some]

/-- A name that stands in what was remembered has a text. -/
theorem Captures.isSome_text? {captures : Captures} {name : List Char} {x : Capture}
    (hx : x ∈ captures) (hname : x.name = name) : (captures.text? name).isSome := by
  rw [Captures.text?, Option.isSome_map, List.find?_isSome]
  exact ⟨x, hx, by simpa using hname⟩

end Pattern

end Timekeeper
