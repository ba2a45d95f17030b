import Timekeeper.Proofs.Pattern.Continued.Basic

/-!
# Escapes with more behind them

Reading an escape keeps step with reading it at the end of a fragment. An escape that the fragment
ends within is blamed, so that only complete escapes count, and these look at no more than the
character behind them.
-/

namespace Timekeeper

namespace Pattern

/-! ### Characters of a kind -/

/-- Where the next character is of another kind, nothing is collected. -/
theorem run_collect_of_head {kind : Char → Bool} {s : Source}
    (h : ∀ c, s.rest.head? = some c → kind c = false) (m : Nat) :
    (collect kind m).run s = .ok ([], s) := by
  cases m with
  | zero => rfl
  | succ m =>
    have hnext : next?.run s = .ok (s.rest.head?, s) := rfl
    rw [collect, StateT.run_bind, hnext]
    cases hhead : s.rest.head? with
    | none => rfl
    | some c =>
      change StateT.run (if kind c = true then _ else _) s = _
      rw [if_neg (by simp [h c hhead])]
      rfl

/-- Collecting never blames anything. -/
theorem exists_run_collect (kind : Char → Bool) (m : Nat) (s : Source) :
    ∃ x, (collect kind m).run s = .ok x := by
  induction m generalizing s with
  | zero => exact ⟨_, rfl⟩
  | succ m ih =>
    by_cases hhead : ∀ c, s.rest.head? = some c → kind c = false
    · exact ⟨_, run_collect_of_head hhead _⟩
    · push Not at hhead
      obtain ⟨c, hc, hkind⟩ := hhead
      obtain ⟨x, hx⟩ := ih s.advance.skip
      have hnext : next?.run s = .ok (some c, s) := hc ▸ rfl
      refine ⟨(c :: x.1, x.2), ?_⟩
      rw [collect, StateT.run_bind, hnext]
      change StateT.run (if kind c = true then _ else _) s = _
      rw [if_pos (by simpa using hkind)]
      change ((collect kind m >>= fun rest => pure (c :: rest)).run s.advance.skip) = _
      rw [StateT.run_bind, hx]
      rfl

variable {ι : Type} {behind : ι → List Char} {n : Nat} {s : Source} {t : ι → Source}

/-- What collecting comes to: the same characters, unless the fragment ends within them and the
text behind it goes on with the kind. -/
def Collected (behind : ι → List Char) (n : Nat) (kind : Char → Bool) :
    Outcome ι (List Char) (List Char) := fun a b s t =>
  s.rest ≠ [] ∨ kind '\\' = false ∧ kind ')' = false → Joined behind n s t ∧ ∀ i, b i = a

private theorem collect_nil (h : Joined behind n s t) (hs : s.rest = []) (kind : Char → Bool)
    (m : Nat) (m' : ι → Nat) :
    InStep (collect kind m) (fun i => collect kind (m' i)) s t (Collected behind n kind) := by
  have halone : (collect kind m).run s = .ok ([], s) := run_collect_of_head (by simp [hs]) m
  intro a s' hrun
  obtain ⟨rfl, rfl⟩ := Prod.mk.inj (Except.ok.inj (halone.symm.trans hrun))
  by_cases hkind : kind '\\' = false ∧ kind ')' = false
  · refine ⟨fun _ => [], t, fun i => ?_, fun _ => ⟨h, fun _ => rfl⟩⟩
    exact run_collect_of_head (fun c hc => (h.of_nil hs i).not_of_head hkind hc) _
  · choose x hx using fun i => exists_run_collect kind (m' i) (t i)
    exact ⟨fun i => (x i).1, fun i => (x i).2, hx,
      fun hmore => absurd hmore (by simp only [hs, hkind]; simp)⟩

theorem InStep.collect (h : Joined behind n s t) (kind : Char → Bool) {m : ι → Nat}
    (hm : ∀ i, n ≤ m i) :
    InStep (collect kind n) (fun i => collect kind (m i)) s t (Collected behind n kind) := by
  induction n generalizing s t m with
  | zero => exact collect_nil h h.rest_eq_nil kind 0 m
  | succ n ih =>
    by_cases hs : s.rest = []
    · exact collect_nil h hs kind (n + 1) m
    · obtain ⟨m, rfl, hleft⟩ := exists_eq_succ hm
      simp only [Pattern.collect]
      refine .next? h (fun c rest hcons => ?_) fun hnil => absurd hnil hs
      dsimp only
      by_cases hc : kind c = true
      · simp only [hc, if_true]
        refine .advanceSkip h hs fun s₁ t₁ h₁ => ?_
        refine (ih h₁ hleft).bind fun a b s₂ t₂ hmore => ?_
        refine .pure fun hstop => ?_
        obtain ⟨h₂, hb⟩ := hmore hstop
        exact ⟨h₂.mono n.le_succ, fun i => congrArg (c :: ·) (hb i)⟩
      · simp only [hc]
        exact .pure fun _ => ⟨h, fun _ => rfl⟩

theorem InStep.collectAll (h : Joined behind n s t) (kind : Char → Bool) :
    InStep (collectAll kind) (fun _ => collectAll kind) s t (Collected behind n kind) := by
  have hleft : Joined behind s.rest.length s t := { h with length_le := le_rfl }
  refine .step rfl (fun _ => rfl) ((InStep.collect hleft kind h.length_eq).mono ?_)
  intro a b s' t' hmore hstop
  exact ⟨(hmore hstop).1.mono h.length_le, (hmore hstop).2⟩

/-! ### Characters by their number -/

theorem InStep.hexDigits (h : Joined behind n s t) (m : Nat) :
    InStep (hexDigits m) (fun _ => hexDigits m) s t (Agree behind n fun a b => b = a) := by
  induction m generalizing s t with
  | zero => exact .pure ⟨h, fun _ => rfl⟩
  | succ m ih =>
    simp only [Pattern.hexDigits]
    refine .next? h (fun c rest hs => ?_) fun hs => .of_blames (.bind_right fun _ => .blame _ _)
    dsimp only
    by_cases hc : isHex c = true
    · simp only [hc, if_true]
      refine .advanceSkip (h.mono n.le_succ) (by simp [hs]) fun s₁ t₁ h₁ => ?_
      refine (ih h₁).bind fun digits digits' s₂ t₂ ⟨h₂, hdigits⟩ => ?_
      exact .pure ⟨h₂, fun i => congrArg (c :: ·) (hdigits i)⟩
    · simp only [hc]
      exact .of_blames (.bind_right fun _ => .blame _ _)

/-- Trees that are the same, places apart. -/
abbrev SameTree (t u : Tree) : Prop := u.bare = t.bare

theorem InStep.hexLiteral (h : Joined behind (n + 1) s t) (hs : s.rest ≠ []) (start : Place)
    (start' : ι → Place) (width : Nat) :
    InStep (hexLiteral start width) (fun i => hexLiteral (start' i) width) s t
      (Agree behind n SameTree) := by
  simp only [Pattern.hexLiteral]
  refine .advanceSkip h hs fun s₁ t₁ h₁ => ?_
  refine .notAtEnd h₁ (.bind_right fun _ => .bind_left (.blame _ _)) fun hs₁ => ?_
  refine .isNext h₁ (by decide) (fun rest hbrace => ?_) fun _ => ?_
  · -- the form in braces
    refine .step rfl (fun _ => rfl) (.step rfl (fun _ => rfl) ?_)
    refine .advanceSkip (h₁.mono n.le_succ) hs₁ fun s₂ t₂ h₂ => ?_
    refine (InStep.collectAll h₂ isHex).bind fun digits digits' s₃ t₃ hdigits => ?_
    obtain ⟨h₃, hdigits⟩ := hdigits (.inr (by decide))
    simp only [hdigits]
    refine .next? h₃ (fun c rest hs₃ => ?_) fun _ => .of_blames (.bind_right fun _ => .blame _ _)
    by_cases hc : c = '\x7d'
    · subst hc
      refine .step rfl (fun _ => rfl) ?_
      refine .advanceSkip (h₃.mono n.le_succ) (by simp [hs₃]) fun s₄ t₄ h₄ => ?_
      cases digits.isEmpty with
      | true => exact .of_blames (.bind_right fun _ => .bind_left (.blame _ _))
      | false =>
        cases charOfHex? digits with
        | none => exact .of_blames (.blame _ _)
        | some d => exact .pure ⟨h₄, fun _ => rfl⟩
    · refine .of_blames ?_
      split
      · contradiction
      · simp_all
      · exact .bind_right fun _ => .blame _ _
  · -- the form of a fixed length
    refine .step rfl (fun _ => rfl) ?_
    refine (InStep.hexDigits h₁ width).bind fun digits digits' s₂ t₂ ⟨h₂, hdigits⟩ => ?_
    simp only [hdigits]
    refine .step rfl (fun _ => rfl) ?_
    cases charOfHex? digits with
    | none => exact .of_blames (.blame _ _)
    | some d => exact .pure ⟨h₂, fun _ => rfl⟩

/-! ### Properties -/

theorem InStep.propertyClass (h : Joined behind (n + 1) s t) (hs : s.rest ≠ []) (start : Place)
    (start' : ι → Place) (negated : Bool) :
    InStep (propertyClass start negated) (fun i => propertyClass (start' i) negated) s t
      (Agree behind n SameTree) := by
  simp only [Pattern.propertyClass]
  refine .advanceSkip h hs fun s₁ t₁ h₁ => ?_
  refine .next? h₁ (fun c rest hs₁ => ?_) fun _ => .of_blames (.bind_right fun _ => .blame _ _)
  have hs₁' : s₁.rest ≠ [] := by simp [hs₁]
  split
  case h_1 => contradiction
  case h_2 =>
    refine .advanceSkip (h₁.mono n.le_succ) hs₁' fun s₂ t₂ h₂ => ?_
    refine (InStep.collectAll h₂ _).bind fun name name' s₃ t₃ hname => ?_
    by_cases hs₃ : s₃.rest = []
    · -- without the closing brace all that is left was taken for the name
      refine .step rfl (fun _ => rfl) (.of_blames ?_)
      rw [hs₃]
      exact .bind_right fun _ => .bind_left (.blame _ _)
    · obtain ⟨h₃, hname⟩ := hname (.inl hs₃)
      simp only [hname]
      refine .notAtEnd h₃ (.bind_right fun _ => .bind_left (.blame _ _)) fun _ => ?_
      refine .advance (h₃.mono n.le_succ) hs₃ fun s₄ t₄ h₄ => ?_
      exact .step rfl (fun _ => rfl) (.pure ⟨h₄, fun _ => rfl⟩)
  case h_3 =>
    refine .ite (fun _ => .rfl)
      (fun _ => .of_blames (.bind_right fun _ => .bind_left (.blame _ _))) fun _ => ?_
    refine .advanceSkip (h₁.mono n.le_succ) hs₁' fun s₂ t₂ h₂ => ?_
    exact .step rfl (fun _ => rfl) (.pure ⟨h₂, fun _ => rfl⟩)

/-! ### Conditions on the place -/

theorem InStep.boundaryName? (h : Joined behind n s t) (hs : s.rest ≠ []) (start : Place)
    (start' : ι → Place) :
    InStep (boundaryName? start) (fun i => boundaryName? (start' i)) s t
      (Agree behind n fun a b => b = a) := by
  simp only [Pattern.boundaryName?]
  refine .step rfl (fun _ => rfl) (.step rfl (fun _ => rfl) ?_)
  refine .advanceSkip (h.mono n.le_succ) hs fun s₁ t₁ h₁ => ?_
  refine .next? h₁ (fun c rest hs₁ => ?_) fun _ => .of_blames (.bind_right fun _ => .blame _ _)
  -- a brace that opens no name is left to the reader
  refine .ite (fun _ => .rfl) (fun _ => .step rfl (fun _ => rfl) (.pure ⟨h, fun _ => rfl⟩))
    fun _ => ?_
  refine .step rfl (fun _ => rfl) ?_
  refine (InStep.collectAll h₁ isBoundaryName).bind fun name name' s₂ t₂ hname => ?_
  obtain ⟨h₂, hname⟩ := hname (.inr (by decide))
  simp only [hname]
  refine .expect h₂ (.bind_right fun _ => .bind_left (.blame _ _)) fun rest hs₂ => ?_
  refine .step rfl (fun _ => rfl) ?_
  refine .advance (h₂.mono n.le_succ) (by simp [hs₂]) fun s₃ t₃ h₃ => ?_
  cases boundaryOfName? name with
  | none => exact .of_blames (.blame _ _)
  | some kind => exact .pure ⟨h₃, fun _ => rfl⟩

/-! ### Escapes -/

theorem InStep.plainEscape (h : Joined behind (n + 1) s t) (hs : s.rest ≠ []) (start : Place)
    (start' : ι → Place) (c : Char) :
    InStep (plainEscape start c) (fun i => plainEscape (start' i) c) s t
      (Agree behind n SameTree) := by
  unfold Pattern.plainEscape
  refine .advance h hs fun s₁ t₁ h₁ => ?_
  refine .step rfl (fun _ => rfl)
    (.ite (fun _ => .rfl) (fun _ => .pure ⟨h₁, fun _ => rfl⟩) fun _ => ?_)
  -- a control character, an anchor or a class has a letter of its own
  cases controlOf? c with
  | some control => exact .pure ⟨h₁, fun _ => rfl⟩
  | none =>
  cases anchorOf? c with
  | some kind => exact .pure ⟨h₁, fun _ => rfl⟩
  | none =>
  cases shortOf? c with
  | some short => exact .pure ⟨h₁, fun _ => rfl⟩
  | none =>
  refine .ite (fun _ => .rfl) (fun _ => ?_) fun _ => .of_blames (.blame _ _)
  refine .isNext h₁ (by decide) (fun rest hs₁ => ?_) fun _ => .pure ⟨h₁, fun _ => rfl⟩
  refine (InStep.boundaryName? h₁ (by simp [hs₁]) start start').bind ?_
  intro named named' s₂ t₂ ⟨h₂, hnamed⟩
  simp only [hnamed]
  cases named with
  | none => exact .pure ⟨h₂, fun _ => rfl⟩
  | some kind => exact .step rfl (fun _ => rfl) (.pure ⟨h₂, fun _ => rfl⟩)

/-- An escape that the fragment does not end within. -/
theorem InStep.escape (h : Joined behind (n + 1) s t) (hs : s.rest ≠ []) :
    InStep escape (fun _ => escape) s t (Agree behind n SameTree) := by
  simp only [Pattern.escape]
  refine .step rfl (fun _ => rfl) (.advance h hs fun s₁ t₁ h₁ => ?_)
  refine .next? h₁ (fun c rest hs₁ => ?_) fun _ => .of_blames (.bind_right fun _ => .blame _ _)
  have h₁' : Joined behind (n + 1) s₁ t₁ := h₁.mono n.le_succ
  have hs₁' : s₁.rest ≠ [] := by simp [hs₁]
  refine .ite (fun _ => .rfl) (fun _ => .of_blames (.bind_right fun _ => .blame _ _)) fun _ => ?_
  refine .ite (fun _ => .rfl) (fun _ => .hexLiteral h₁' hs₁' _ _ 2) fun _ => ?_
  refine .ite (fun _ => .rfl) (fun _ => .hexLiteral h₁' hs₁' _ _ 4) fun _ => ?_
  refine .ite (fun _ => .rfl) (fun _ => .hexLiteral h₁' hs₁' _ _ 8) fun _ => ?_
  refine .ite (fun _ => .rfl) (fun _ => .propertyClass h₁' hs₁' _ _ false) fun _ => ?_
  refine .ite (fun _ => .rfl) (fun _ => .propertyClass h₁' hs₁' _ _ true) fun _ => ?_
  exact .plainEscape h₁' hs₁' _ _ c

end Pattern

end Timekeeper
