import Timekeeper.Pattern.Reader
import Timekeeper.Proofs.Pattern.Bare
import Mathlib.Data.List.Basic
import Mathlib.Data.List.Infix

/-!
# Reading with more behind it

A fragment of a pattern is read alone, and it is read again with each of several texts put behind
it. As long as reading the fragment alone blames nothing, the other readings **keep step** with it
(`InStep`): they come to the same answer, places apart, and what is left for them is what is left of
the fragment, followed by the text behind it.

This rests on where the text behind begins. A **detached** text begins with a backslash or with a
closing parenthesis, which nothing that is open at the end of a fragment goes on with. There is
one exception: where blanks and comments are skipped, a comment that is open at the end of the
fragment goes on into the text behind it and takes all of it (`Joined`).
-/

namespace Timekeeper

namespace Pattern

/-! ### Texts behind a fragment -/

/-- A text that goes on with nothing that the text in front of it has begun, a comment apart. -/
structure Detached (x : List Char) : Prop where
  head : ∀ c, x.head? = some c → c = '\\' ∨ c = ')'
  one_line : '\n' ∉ x
  unnamed : ¬ [':', ']'] <:+: x

theorem Detached.nil : Detached [] := ⟨by simp, by simp, by simp⟩

theorem Detached.head_ne {x : List Char} (h : Detached x) {c : Char}
    (hc : c ∉ ['\\', ')']) : x.head? ≠ some c := by
  intro hx
  obtain rfl | rfl := h.head c hx <;> simp at hc

/-- A test that a backslash and a closing parenthesis fail takes nothing of a detached text. -/
theorem Detached.not_of_head {x : List Char} (h : Detached x) {f : Char → Bool}
    (hf : f '\\' = false ∧ f ')' = false) {c : Char} (hc : x.head? = some c) : f c = false := by
  obtain rfl | rfl := h.head c hc
  · exact hf.1
  · exact hf.2

theorem Detached.takeWhile_append {y : List Char} (h : Detached y) {f : Char → Bool}
    (hf : f '\\' = false ∧ f ')' = false) (x : List Char) :
    (x ++ y).takeWhile f = x.takeWhile f := by
  have hy : y.takeWhile f = [] := by
    cases y with
    | nil => rfl
    | cons c y => rw [List.takeWhile_cons_of_neg (by simp [h.not_of_head hf rfl])]
  rw [List.takeWhile_append, hy, List.append_nil]
  split
  case isTrue hlength =>
    exact ((List.takeWhile_prefix f).eq_of_length hlength).symm
  case isFalse => rfl

/-! ### Sources in step -/

section Family

variable {ι : Type} {behind : ι → List Char} {n : Nat} {s : Source} {t : ι → Source}

/-- Sources of a fragment with texts behind it, next to the source of the fragment alone, of which
so much is left at most. Either the texts behind are still to come, or nothing is left at all: an
open comment took them. Names that only the fragment alone has used do no harm. -/
structure Joined (behind : ι → List Char) (n : Nat) (s : Source) (t : ι → Source) : Prop where
  detached : ∀ i, Detached (behind i)
  length_le : s.rest.length ≤ n
  verbose_eq : ∀ i, (t i).verbose = s.verbose
  names_subset : ∀ i, (t i).names.map Prod.fst ⊆ s.names.map Prod.fst
  rest_eq : (∀ i, (t i).rest = s.rest ++ behind i) ∨ s.rest = [] ∧ ∀ i, (t i).rest = []

namespace Joined

theorem mono (h : Joined behind n s t) {m : Nat} (hm : n ≤ m) : Joined behind m s t :=
  { h with length_le := h.length_le.trans hm }

/-- In the middle of the fragment the same character comes next. -/
theorem of_cons (h : Joined behind n s t) {c : Char} {rest : List Char} (hs : s.rest = c :: rest)
    (i : ι) : (t i).rest = c :: (rest ++ behind i) := by
  obtain hrest | ⟨hnil, -⟩ := h.rest_eq
  · rw [hrest, hs, List.cons_append]
  · rw [hs] at hnil
    contradiction

/-- At the end of the fragment a detached text comes next. -/
theorem of_nil (h : Joined behind n s t) (hs : s.rest = []) (i : ι) : Detached (t i).rest := by
  obtain hrest | ⟨-, hnil⟩ := h.rest_eq
  · rw [hrest, hs, List.nil_append]
    exact h.detached i
  · rw [hnil]
    exact .nil

/-- What is left in the joined sources is what is left of the fragment and a detached text. -/
theorem exists_append (h : Joined behind n s t) (i : ι) :
    ∃ x, Detached x ∧ (t i).rest = s.rest ++ x := by
  obtain hrest | ⟨hs, hnil⟩ := h.rest_eq
  · exact ⟨behind i, h.detached i, hrest i⟩
  · exact ⟨[], .nil, by rw [hs, hnil, List.nil_append]⟩

/-- A fragment of which nothing can be left has ended. -/
theorem rest_eq_nil (h : Joined behind 0 s t) : s.rest = [] :=
  List.length_eq_zero_iff.mp (Nat.le_zero.mp h.length_le)

theorem isEmpty_eq (h : Joined behind n s t) (hs : s.rest ≠ []) (i : ι) :
    (t i).rest.isEmpty = false := by
  obtain ⟨c, rest, hcons⟩ := List.exists_cons_of_ne_nil hs
  rw [h.of_cons hcons i]
  rfl

theorem length_eq (h : Joined behind n s t) (i : ι) : s.rest.length ≤ (t i).rest.length := by
  obtain ⟨x, -, hx⟩ := h.exists_append i
  rw [hx, List.length_append]
  omega

/-- Passing one character of the fragment. -/
theorem advance (h : Joined behind (n + 1) s t) (hs : s.rest ≠ []) :
    Joined behind n s.advance fun i => (t i).advance := by
  obtain ⟨c, rest, hcons⟩ := List.exists_cons_of_ne_nil hs
  have hadvance : s.advance = { s with rest := rest, place := s.place.after c } := by
    rw [Source.advance, hcons]
  have hjoined : ∀ i, (t i).advance =
      { t i with rest := rest ++ behind i, place := (t i).place.after c } := by
    intro i
    rw [Source.advance, h.of_cons hcons i]
  have hlength := h.length_le
  rw [hcons, List.length_cons] at hlength
  constructor
  · exact h.detached
  · rw [hadvance]
    exact Nat.le_of_succ_le_succ hlength
  · intro i
    rw [hadvance, hjoined]
    exact h.verbose_eq i
  · intro i
    rw [hadvance, hjoined]
    exact h.names_subset i
  · refine .inl fun i => ?_
    rw [hadvance, hjoined]

/-- Passing several characters of the fragment. -/
theorem advanceBy (h : Joined behind n s t) {m : Nat} (hm : m ≤ s.rest.length) :
    Joined behind n (s.advanceBy m) fun i => (t i).advanceBy m := by
  induction m generalizing s t n with
  | zero => exact h
  | succ m ih =>
    have hs : s.rest ≠ [] := List.length_pos_iff.mp (by omega)
    have hlength : s.advance.rest.length + 1 = s.rest.length := by
      obtain ⟨c, rest, hcons⟩ := List.exists_cons_of_ne_nil hs
      rw [Source.advance, hcons, List.length_cons]
    exact ih ((h.mono (Nat.le_succ n)).advance hs) (by omega)

end Joined

/-! ### Blanks and comments -/

/-- Whether a text ends within a comment, where blanks and comments are skipped. -/
def endsInComment : List Char → Bool → Bool
  | [], inComment => inComment
  | c :: rest, inComment =>
    if inComment then endsInComment rest (c != '\n')
    else if Text.isBlank c then endsInComment rest false
    else if c = '#' then endsInComment rest true
    else false

private theorem length_dropBlank_le (x : List Char) (p : Place) (inComment : Bool) :
    (Source.dropBlank x p inComment).1.length ≤ x.length := by
  induction x generalizing p inComment with
  | nil => exact le_rfl
  | cons c x ih =>
    rw [Source.dropBlank]
    split_ifs
    · exact (ih _ _).trans (Nat.le_succ _)
    · exact (ih _ _).trans (Nat.le_succ _)
    · exact (ih _ _).trans (Nat.le_succ _)
    · exact le_rfl

/-- A comment goes on to the end of its line. -/
private theorem dropBlank_comment {x : List Char} (hx : '\n' ∉ x) (p : Place) :
    (Source.dropBlank x p true).1 = [] := by
  induction x generalizing p with
  | nil => rfl
  | cons c x ih =>
    obtain ⟨hc, hx⟩ := List.ne_and_not_mem_of_not_mem_cons hx
    have hc' : (c != '\n') = true := by simpa using Ne.symm hc
    rw [Source.dropBlank, if_pos rfl, hc']
    exact ih hx _

private theorem dropBlank_detached {x : List Char} (hx : Detached x) (p : Place) :
    Source.dropBlank x p false = (x, p) := by
  cases x with
  | nil => rfl
  | cons c x =>
    obtain rfl | rfl := hx.head c rfl <;> rfl

/-- An open comment takes the text behind it. -/
private theorem dropBlank_append_of_endsInComment {x y : List Char} (hy : Detached y)
    (p q : Place) {inComment : Bool} (h : endsInComment x inComment = true) :
    (Source.dropBlank x p inComment).1 = [] ∧
      (Source.dropBlank (x ++ y) q inComment).1 = [] := by
  induction x generalizing p q inComment with
  | nil =>
    obtain rfl : inComment = true := h
    exact ⟨rfl, dropBlank_comment hy.one_line q⟩
  | cons c x ih =>
    rw [endsInComment] at h
    rw [List.cons_append, Source.dropBlank, Source.dropBlank]
    split_ifs at h ⊢
    · exact ih _ _ h
    · exact ih _ _ h
    · exact ih _ _ h

/-- Otherwise the text behind is left. -/
private theorem dropBlank_append {x y : List Char} (hy : Detached y) (p q : Place)
    {inComment : Bool} (h : endsInComment x inComment = false) :
    (Source.dropBlank (x ++ y) q inComment).1 = (Source.dropBlank x p inComment).1 ++ y := by
  induction x generalizing p q inComment with
  | nil =>
    obtain rfl : inComment = false := h
    rw [List.nil_append, dropBlank_detached hy]
    rfl
  | cons c x ih =>
    rw [endsInComment] at h
    rw [List.cons_append, Source.dropBlank, Source.dropBlank]
    split_ifs at h ⊢
    · exact ih _ _ h
    · exact ih _ _ h
    · exact ih _ _ h
    · rfl

theorem Source.rest_skip (s : Source) : s.skip.rest =
    if s.verbose then (dropBlank s.rest s.place false).1 else s.rest := by
  rw [skip]
  split <;> rfl

theorem Source.verbose_skip (s : Source) : s.skip.verbose = s.verbose := by
  rw [skip]
  split <;> rfl

theorem Source.names_skip (s : Source) : s.skip.names = s.names := by
  rw [skip]
  split <;> rfl

theorem Source.length_rest_skip_le (s : Source) : s.skip.rest.length ≤ s.rest.length := by
  rw [rest_skip]
  split
  · exact length_dropBlank_le _ _ _
  · exact le_rfl

/-- In front of a detached text nothing is skipped. -/
theorem Source.skip_of_detached {s : Source} (h : Detached s.rest) : s.skip = s := by
  rw [skip]
  split
  · rw [dropBlank_detached h]
  · rfl

/-- Passing blanks and comments. -/
theorem Joined.skip (h : Joined behind n s t) : Joined behind n s.skip fun i => (t i).skip := by
  constructor
  · exact h.detached
  · exact s.length_rest_skip_le.trans h.length_le
  · intro i
    rw [Source.verbose_skip, Source.verbose_skip, h.verbose_eq]
  · intro i
    rw [Source.names_skip, Source.names_skip]
    exact h.names_subset i
  · simp only [Source.rest_skip, h.verbose_eq]
    obtain hrest | ⟨hs, ht⟩ := h.rest_eq
    · by_cases hverbose : s.verbose = true
      · simp only [hverbose, if_true, hrest]
        -- whether the texts behind are taken depends on the fragment alone
        cases hcomment : endsInComment s.rest false with
        | true =>
          refine .inr ⟨?_, fun i => ?_⟩
          · exact (dropBlank_append_of_endsInComment .nil s.place s.place hcomment).1
          · exact (dropBlank_append_of_endsInComment (h.detached i) s.place _ hcomment).2
        | false => exact .inl fun i => dropBlank_append (h.detached i) _ _ hcomment
      · simp only [hverbose]
        exact .inl hrest
    · refine .inr ⟨?_, fun i => ?_⟩
      · rw [hs, Source.dropBlank, ite_self]
      · rw [ht, Source.dropBlank, ite_self]

/-! ### Readings in step -/

variable {α β γ δ : Type}

/-- What readings that keep step come to: an answer of the fragment alone and one of each other
reading, and the sources behind. -/
abbrev Outcome (ι α β : Type) := α → (ι → β) → Source → (ι → Source) → Prop

/-- Readings **keep step** with a reading of the fragment alone if they go on wherever it does,
with an outcome. -/
def InStep (f : Reading α) (g : ι → Reading β) (s : Source) (t : ι → Source)
    (Q : Outcome ι α β) : Prop :=
  ∀ a s', f.run s = .ok (a, s') →
    ∃ b t', (∀ i, (g i).run (t i) = .ok (b i, t' i)) ∧ Q a b s' t'

/-- The usual outcome: the sources are joined, and the answers agree. -/
def Agree (behind : ι → List Char) (n : Nat) (R : α → β → Prop) : Outcome ι α β :=
  fun a b s t => Joined behind n s t ∧ ∀ i, R a (b i)

/-- A reading that blames something whatever comes. -/
def Blames (f : Reading α) : Prop := ∀ s, ∃ b, f.run s = .error b

namespace Blames

variable {f : Reading α} {k : α → Reading β}

theorem blame (fault : Fault) (span : Span) : Blames (blame fault span : Reading α) :=
  fun _ => ⟨_, rfl⟩

theorem throw (b : Blame) : Blames (throw b : Reading α) := fun _ => ⟨b, rfl⟩

theorem bind_left (h : Blames f) : Blames (f >>= k) := by
  intro s
  obtain ⟨b, hb⟩ := h s
  refine ⟨b, ?_⟩
  rw [StateT.run_bind, hb]
  rfl

theorem bind_right (h : ∀ a, Blames (k a)) : Blames (f >>= k) := by
  intro s
  rw [StateT.run_bind]
  cases hf : f.run s with
  | error b => exact ⟨b, rfl⟩
  | ok x => exact h x.1 x.2

end Blames

/-- Where two readings go on one behind the other, both go on. -/
theorem exists_of_run_bind_eq_ok {f : Reading α} {k : α → Reading β} {s : Source}
    {x : β × Source} (h : (f >>= k).run s = .ok x) :
    ∃ a s', f.run s = .ok (a, s') ∧ (k a).run s' = .ok x := by
  rw [StateT.run_bind] at h
  cases hf : f.run s with
  | error b =>
    rw [hf] at h
    contradiction
  | ok y =>
    rw [hf] at h
    exact ⟨y.1, y.2, rfl, h⟩

namespace InStep

variable {f : Reading α} {g : ι → Reading β} {k : α → Reading γ} {k' : ι → β → Reading δ}
  {Q : Outcome ι γ δ} {P P' : Outcome ι α β}

theorem mono (h : InStep f g s t P) (hP : ∀ a b s' t', P a b s' t' → P' a b s' t') :
    InStep f g s t P' := by
  intro a s' hf
  obtain ⟨b, t', hg, hb⟩ := h a s' hf
  exact ⟨b, t', hg, hP a b s' t' hb⟩

theorem bind (h : InStep f g s t P)
    (hk : ∀ a b s' t', P a b s' t' → InStep (k a) (fun i => k' i (b i)) s' t' Q) :
    InStep (f >>= k) (fun i => g i >>= k' i) s t Q := by
  intro c s' hrun
  obtain ⟨a, s₁, hf, hrun⟩ := exists_of_run_bind_eq_ok hrun
  obtain ⟨b, t₁, hg, hP⟩ := h a s₁ hf
  obtain ⟨d, t', hk', hQ⟩ := hk a b s₁ t₁ hP c s' hrun
  refine ⟨d, t', fun i => ?_, hQ⟩
  rw [StateT.run_bind, hg]
  exact hk' i

theorem pure {a : γ} {b : ι → δ} (h : Q a b s t) :
    InStep (pure a) (fun i => pure (b i)) s t Q := by
  rintro _ _ ⟨⟩
  exact ⟨b, t, fun _ => rfl, h⟩

/-- A reading that blames something need not be kept step with. -/
theorem of_blames {f : Reading γ} {g : ι → Reading δ} (h : Blames f) : InStep f g s t Q := by
  intro a s' hrun
  obtain ⟨b, hb⟩ := h s
  rw [hb] at hrun
  contradiction

/-- A question that all readings answer alike. -/
theorem ite {p : Prop} {q : ι → Prop} [Decidable p] [∀ i, Decidable (q i)]
    {a₁ a₂ : Reading γ} {b₁ b₂ : ι → Reading δ} (hq : ∀ i, q i ↔ p)
    (hpos : p → InStep a₁ b₁ s t Q) (hneg : ¬p → InStep a₂ b₂ s t Q) :
    InStep (if p then a₁ else a₂) (fun i => if q i then b₁ i else b₂ i) s t Q := by
  by_cases hp : p
  · simpa only [hq, hp, if_true] using hpos hp
  · simpa only [hq, hp, if_false] using hneg hp

/-- Steps that are known beforehand. -/
theorem step {a : α} {b : ι → β} {s' : Source} {t' : ι → Source} (hf : f.run s = .ok (a, s'))
    (hg : ∀ i, (g i).run (t i) = .ok (b i, t' i))
    (h : InStep (k a) (fun i => k' i (b i)) s' t' Q) :
    InStep (f >>= k) (fun i => g i >>= k' i) s t Q := by
  have hstep : InStep f g s t fun a₁ b₁ s₁ t₁ => a₁ = a ∧ b₁ = b ∧ s₁ = s' ∧ t₁ = t' := by
    intro a₁ s₁ hrun
    obtain ⟨rfl, rfl⟩ := Prod.mk.inj (Except.ok.inj (hf.symm.trans hrun))
    exact ⟨b, t', hg, rfl, rfl, rfl, rfl⟩
  refine hstep.bind ?_
  rintro _ _ _ _ ⟨rfl, rfl, rfl, rfl⟩
  exact h

end InStep

/-! ### Steps of the readers -/

/-- Bounds of which each allows a step that the fragment alone makes. -/
theorem exists_eq_succ {m : ι → Nat} (hm : ∀ i, n + 1 ≤ m i) :
    ∃ k : ι → Nat, m = (fun i => k i + 1) ∧ ∀ i, n ≤ k i :=
  ⟨fun i => m i - 1, funext fun i => (Nat.sub_add_cancel (Nat.one_le_of_lt (hm i))).symm,
    fun i => Nat.le_sub_one_of_lt (hm i)⟩

section Steps

variable {k : Option Char → Reading γ} {k' : ι → Option Char → Reading δ} {Q : Outcome ι γ δ}

/-- Looking at the next character, in the middle of the fragment and at its end. -/
theorem InStep.next? (h : Joined behind n s t)
    (hsome : ∀ c rest, s.rest = c :: rest →
      InStep (k (some c)) (fun i => k' i (some c)) s t Q)
    (hnone : s.rest = [] → InStep (k none) (fun i => k' i (t i).rest.head?) s t Q) :
    InStep (next? >>= k) (fun i => next? >>= k' i) s t Q := by
  refine .step rfl (fun _ => rfl) ?_
  cases hs : s.rest with
  | nil => exact hnone hs
  | cons c rest =>
    have hhead : ∀ i, (t i).rest.head? = some c := fun i => by rw [h.of_cons hs i]; rfl
    simp only [hhead]
    exact hsome c rest hs

/-- Whether a certain character comes next, which is none that a detached text begins with. -/
theorem InStep.isNext {a₁ a₂ : Reading γ} {b₁ b₂ : ι → Reading δ} {d : Char}
    (h : Joined behind n s t) (hd : d ∉ ['\\', ')'])
    (hpos : ∀ rest, s.rest = d :: rest → InStep a₁ b₁ s t Q)
    (hneg : s.rest.head? ≠ some d → InStep a₂ b₂ s t Q) :
    InStep (Pattern.next? >>= fun c => if c = some d then a₁ else a₂)
      (fun i => Pattern.next? >>= fun c => if c = some d then b₁ i else b₂ i) s t Q := by
  refine .next? h (fun c rest hs => ?_) fun hs => ?_
  · by_cases hc : c = d
    · simp only [hc, if_true]
      exact hpos rest (hc ▸ hs)
    · simp only [Option.some.injEq, hc, if_false]
      exact hneg (by simpa [hs] using hc)
  · have hhead : ∀ i, (t i).rest.head? ≠ some d := fun i => (h.of_nil hs i).head_ne hd
    simp only [hhead, if_false, reduceCtorEq]
    exact hneg (by simp [hs])

/-- A character that has to come next. -/
theorem InStep.expect {a₁ a₂ : Reading γ} {b₁ b₂ : ι → Reading δ} {d : Char}
    (h : Joined behind n s t) (hmissing : Blames a₁)
    (hgo : ∀ rest, s.rest = d :: rest → InStep a₂ b₂ s t Q) :
    InStep (Pattern.next? >>= fun c => if c ≠ some d then a₁ else a₂)
      (fun i => Pattern.next? >>= fun c => if c ≠ some d then b₁ i else b₂ i) s t Q := by
  refine .next? h (fun c rest hs => ?_) fun hs => .of_blames (by simpa using hmissing)
  by_cases hc : c = d
  · subst hc
    simp only [ne_eq, not_true_eq_false, if_false]
    exact hgo rest hs
  · exact .of_blames (by simpa [hc] using hmissing)

/-- Where it is blamed that nothing is left, something is. -/
theorem InStep.notEmpty {a₁ a₂ : Reading γ} {b₁ b₂ : ι → Reading δ} (h : Joined behind n s t)
    (hend : Blames a₁) (hgo : s.rest ≠ [] → InStep a₂ b₂ s t Q) :
    InStep (if s.rest.isEmpty = true then a₁ else a₂)
      (fun i => if (t i).rest.isEmpty = true then b₁ i else b₂ i) s t Q := by
  by_cases hs : s.rest = []
  · refine .of_blames ?_
    rwa [hs, List.isEmpty_nil, if_pos rfl]
  · refine .ite (fun i => ?_) (fun hempty => ?_) fun _ => hgo hs
    · rw [h.isEmpty_eq hs, List.isEmpty_eq_false_iff.mpr hs]
    · exact absurd (List.isEmpty_iff.mp hempty) hs

theorem InStep.notAtEnd {a₁ a₂ : Reading γ} {b₁ b₂ : ι → Reading δ} (h : Joined behind n s t)
    (hend : Blames a₁) (hgo : s.rest ≠ [] → InStep a₂ b₂ s t Q) :
    InStep (atEnd >>= fun e => if e = true then a₁ else a₂)
      (fun i => atEnd >>= fun e => if e = true then b₁ i else b₂ i) s t Q :=
  .step rfl (fun _ => rfl) (.notEmpty h hend hgo)

end Steps

section Moves

variable {k : PUnit → Reading γ} {k' : ι → PUnit → Reading δ} {Q : Outcome ι γ δ}

theorem InStep.advance (h : Joined behind (n + 1) s t) (hs : s.rest ≠ [])
    (hgo : ∀ s' t', Joined behind n s' t' → InStep (k ⟨⟩) (fun i => k' i ⟨⟩) s' t' Q) :
    InStep (Pattern.advance >>= k) (fun i => Pattern.advance >>= k' i) s t Q :=
  .step rfl (fun _ => rfl) (hgo _ _ (h.advance hs))

theorem InStep.skip (h : Joined behind n s t)
    (hgo : ∀ s' t', Joined behind n s' t' → InStep (k ⟨⟩) (fun i => k' i ⟨⟩) s' t' Q) :
    InStep (Pattern.skip >>= k) (fun i => Pattern.skip >>= k' i) s t Q :=
  .step rfl (fun _ => rfl) (hgo _ _ h.skip)

theorem InStep.advanceSkip (h : Joined behind (n + 1) s t) (hs : s.rest ≠ [])
    (hgo : ∀ s' t', Joined behind n s' t' → InStep (k ⟨⟩) (fun i => k' i ⟨⟩) s' t' Q) :
    InStep (Pattern.advanceSkip >>= k) (fun i => Pattern.advanceSkip >>= k' i) s t Q :=
  .step rfl (fun _ => rfl) (hgo _ _ (h.advance hs).skip)

end Moves

end Family

end Pattern

end Timekeeper
