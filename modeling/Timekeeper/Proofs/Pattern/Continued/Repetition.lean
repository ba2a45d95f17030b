import Timekeeper.Proofs.Pattern.Continued.Escape
import Timekeeper.Proofs.Pattern.Continued.Stack

/-!
# Repetitions with more behind them

A sign of repetition applies to the last member read, which agrees on both stacks: one that would
apply to what lies beneath the fragment is blamed in the fragment alone. A sign at the end of the
fragment is greedy there, and it stays greedy, since no detached text begins with the sign that
would make it lazy. The counts of a repetition in braces are complete before the fragment ends.
-/

namespace Timekeeper

namespace Pattern

variable {ι : Type} {behind : ι → List Char} {base : ι → Below} {n : Nat} {s : Source}
  {t : ι → Source} {r : Run} {r' : ι → Run} {frames : List Frame} {frames' : ι → List Frame}

/-- Stacks that lie beneath one another, in step. -/
def Lies (behind : ι → List Char) (base : ι → Below) (n : Nat) (frames : List Frame)
    (frames' : ι → List Frame) : Outcome ι Run Run := fun r r' s t =>
  Joined behind n s t ∧ ∀ i, Beneath (base i) r frames (r' i) (frames' i)

/-- Trees to which no repetition operator can apply. -/
private def IsBlank (t : Tree) : Prop := t = .empty ∨ ∃ changes, t = .flags changes

private theorem isBlank_of_bare_eq {t u : Tree} (h : t.bare = u.bare) (ht : IsBlank t) :
    IsBlank u := by
  obtain rfl | ⟨changes, rfl⟩ := ht <;> cases u <;> simp_all [IsBlank, Tree.bare]

private theorem repeated_eq {r : Run} {member : Tree} {others : List Tree}
    (h : r.members = member :: others) (hmember : ¬IsBlank member) :
    repeated r = pure (member, ⟨r.first, others⟩) := by
  rw [repeated, h]
  split
  case h_1 => contradiction
  case h_2 heq => exact absurd (.inl (List.cons.inj heq).1) hmember
  case h_3 changes _ heq => exact absurd (.inr ⟨changes, (List.cons.inj heq).1⟩) hmember
  case h_4 heq =>
    obtain ⟨rfl, rfl⟩ := List.cons.inj heq
    rfl

/-- What a repetition operator applies to. -/
theorem InStep.repeated (hr : ∀ i, Beneath (base i) r frames (r' i) (frames' i)) :
    InStep (repeated r) (fun i => repeated (r' i)) s t fun a b s' t' =>
      s' = s ∧ t' = t ∧ ∀ i, SameTree a.1 (b i).1 ∧
        Beneath (base i) a.2 frames (b i).2 (frames' i) := by
  obtain ⟨first, members⟩ := r
  cases members with
  | nil => exact .of_blames (.bind_right fun _ => .blame _ _)
  | cons member others =>
    by_cases hmember : IsBlank member
    · refine .of_blames ?_
      obtain rfl | ⟨changes, rfl⟩ := hmember <;> exact .bind_right fun _ => .blame _ _
    · choose member' others' hcons hsame hothers using fun i => (hr i).pop
      have hrepeated : ∀ i, Pattern.repeated (r' i) =
          Pure.pure (member' i, ⟨(r' i).first, others' i⟩) := fun i =>
        repeated_eq (hcons i) fun hblank => hmember (isBlank_of_bare_eq (hsame i) hblank)
      rw [repeated_eq rfl hmember]
      simp only [hrepeated]
      exact .pure ⟨rfl, rfl, fun i => ⟨hsame i, hothers i⟩⟩

theorem InStep.greedSign (h : Joined behind n s t) :
    InStep greedSign (fun _ => greedSign) s t (Agree behind n fun a b => b = a) := by
  simp only [Pattern.greedSign]
  refine .isNext h (by decide) (fun rest hs => ?_) fun _ => .pure ⟨h, fun _ => rfl⟩
  refine .advance (h.mono n.le_succ) (by simp [hs]) fun s₁ t₁ h₁ => ?_
  exact .pure ⟨h₁, fun _ => rfl⟩

theorem InStep.signRepetition (h : Joined behind (n + 1) s t) (hs : s.rest ≠ []) (least : Nat)
    (most : Option Nat) (hr : ∀ i, Beneath (base i) r frames (r' i) (frames' i)) :
    InStep (signRepetition least most r) (fun i => signRepetition least most (r' i)) s t
      (Lies behind base n frames frames') := by
  simp only [Pattern.signRepetition]
  refine (InStep.repeated hr).bind ?_
  rintro ⟨body, others⟩ taken _ _ ⟨rfl, rfl, htaken⟩
  refine .advance h hs fun s₁ t₁ h₁ => ?_
  refine (InStep.greedSign h₁).bind fun greedy greedy' s₂ t₂ ⟨h₂, hgreedy⟩ => ?_
  refine .step rfl (fun _ => rfl) (.pure ⟨h₂, fun i => (htaken i).2.push ?_⟩)
  simp only [Tree.bare, hgreedy i, (htaken i).1]

/-! ### Counts -/

/-- Counts that agree where there is one; which blame stands for another does not matter. -/
abbrev SameCount (a b : Except Blame Nat) : Prop := ∀ m, a = .ok m → b = .ok m

theorem InStep.count (h : Joined behind n s t) :
    InStep count (fun _ => count) s t (Agree behind n SameCount) := by
  have hblanks : ∀ i, (t i).rest.takeWhile Text.isBlank = s.rest.takeWhile Text.isBlank := by
    intro i
    obtain ⟨x, hx, hrest⟩ := h.exists_append i
    rw [hrest, hx.takeWhile_append (by decide)]
  have hlength : (s.rest.takeWhile Text.isBlank).length ≤ s.rest.length :=
    (List.takeWhile_prefix _).length_le
  have h₁ := h.advanceBy hlength
  simp only [Pattern.count]
  refine .step rfl (fun _ => rfl) (.step rfl (fun _ => rfl) ?_)
  simp only [hblanks]
  refine (InStep.collectAll h₁ Char.isDigit).bind fun digits digits' s₂ t₂ hdigits => ?_
  obtain ⟨h₂, hdigits⟩ := hdigits (.inr (by decide))
  simp only [hdigits]
  refine .step rfl (fun _ => rfl) ?_
  refine (InStep.collectAll h₂ Text.isBlank).bind fun _ _ s₃ t₃ hlast => ?_
  obtain ⟨h₃, -⟩ := hlast (.inr (by decide))
  refine .ite (fun _ => .rfl) (fun _ => .pure ⟨h₃, fun _ _ hm => by contradiction⟩) fun _ => ?_
  refine .ite (fun _ => .rfl) (fun _ => .pure ⟨h₃, fun _ _ hm => by contradiction⟩) fun _ => ?_
  exact .pure ⟨h₃, fun _ _ hm => hm⟩

theorem InStep.raise {count : Except Blame Nat} {count' : ι → Except Blame Nat}
    (hcount : ∀ i, SameCount count (count' i)) :
    InStep (raise count) (fun i => raise (count' i)) s t fun a b s' t' =>
      s' = s ∧ t' = t ∧ ∀ i, b i = a := by
  cases count with
  | error b => exact .of_blames (.throw b)
  | ok m =>
    obtain rfl : count' = fun _ => .ok m := funext fun i => hcount i m rfl
    exact .pure ⟨rfl, rfl, fun _ => rfl⟩

theorem InStep.counts (h : Joined behind n s t) (start : Place) (start' : ι → Place) :
    InStep (counts start) (fun i => counts (start' i)) s t
      (Agree behind n fun a b => b = a) := by
  simp only [Pattern.counts]
  refine (InStep.count h).bind fun least least' s₁ t₁ ⟨h₁, hleast⟩ => ?_
  refine .notAtEnd h₁ (.bind_right fun _ => .bind_left (.blame _ _)) fun hs₁ => ?_
  refine .isNext h₁ (by decide) (fun _ _ => ?_) fun _ => ?_
  · refine .advanceSkip (h₁.mono n.le_succ) hs₁ fun s₂ t₂ h₂ => ?_
    refine .notAtEnd h₂ (.bind_right fun _ => .bind_left (.blame _ _)) fun _ => ?_
    refine .isNext h₂ (by decide) (fun _ _ => ?_) fun _ => ?_
    · refine (InStep.raise hleast).bind ?_
      rintro m m' _ _ ⟨rfl, rfl, hm⟩
      exact .pure ⟨h₂, fun i => by simp only [hm]⟩
    · refine (InStep.raise hleast).bind ?_
      rintro m m' _ _ ⟨rfl, rfl, hm⟩
      refine (InStep.count h₂).bind fun most most' s₃ t₃ ⟨h₃, hmost⟩ => ?_
      refine (InStep.raise hmost).bind ?_
      rintro k k' _ _ ⟨rfl, rfl, hk⟩
      exact .pure ⟨h₃, fun i => by simp only [hm, hk]⟩
  · refine (InStep.raise hleast).bind ?_
    rintro m m' _ _ ⟨rfl, rfl, hm⟩
    exact .pure ⟨h₁, fun i => by simp only [hm]⟩

theorem InStep.countedRepetition (h : Joined behind (n + 1) s t) (hs : s.rest ≠ [])
    (hr : ∀ i, Beneath (base i) r frames (r' i) (frames' i)) :
    InStep (countedRepetition r) (fun i => countedRepetition (r' i)) s t
      (Lies behind base n frames frames') := by
  simp only [Pattern.countedRepetition]
  refine .step rfl (fun _ => rfl) ((InStep.repeated hr).bind ?_)
  rintro ⟨body, others⟩ taken _ _ ⟨rfl, rfl, htaken⟩
  refine .advanceSkip h hs fun s₁ t₁ h₁ => ?_
  refine .notAtEnd h₁ (.bind_right fun _ => .bind_left (.blame _ _)) fun _ => ?_
  refine (InStep.counts h₁ _ _).bind ?_
  rintro ⟨least, most⟩ found s₂ t₂ ⟨h₂, hfound⟩
  simp only [hfound]
  refine .expect h₂ (.bind_right fun _ => .bind_left (.blame _ _)) fun rest hs₂ => ?_
  refine .advanceSkip (h₂.mono n.le_succ) (by simp [hs₂]) fun s₃ t₃ h₃ => ?_
  refine (InStep.greedSign h₃).bind fun greedy greedy' s₄ t₄ ⟨h₄, hgreedy⟩ => ?_
  refine .ite (fun _ => .rfl) (fun _ => ?_) fun _ => ?_
  · exact .of_blames (.bind_right fun _ => .bind_left (.blame _ _))
  · refine .step rfl (fun _ => rfl) (.pure ⟨h₄, fun i => (htaken i).2.push ?_⟩)
    simp only [Tree.bare, hgreedy i, (htaken i).1]

end Pattern

end Timekeeper
