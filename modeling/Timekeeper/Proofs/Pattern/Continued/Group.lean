import Timekeeper.Proofs.Pattern.Continued.Class
import Timekeeper.Proofs.Pattern.Continued.Repetition

/-!
# Groups with more behind them

What opens a group is complete before the fragment ends: the words that tell its kind hold neither
character that a detached text begins with, and flags and names that the fragment ends within are
blamed. A name that is new to the fragment alone is new to the other readings, which have used no
others. A group that opens or closes does so on both stacks (`Stacked`), and one that the fragment
does not open is not closed in it.
-/

namespace Timekeeper

namespace Pattern

variable {ι : Type} {behind : ι → List Char} {base : ι → Below} {n : Nat} {s : Source}
  {t : ι → Source} {r : Run} {r' : ι → Run} {frames : List Frame} {frames' : ι → List Frame}

/-! ### Words -/

/-- A word with neither of the characters that a detached text begins with does not go on into
such a text. -/
theorem isPrefixOf_append {word y : List Char} (hy : Detached y)
    (hword : '\\' ∉ word ∧ ')' ∉ word) (x : List Char) :
    word.isPrefixOf (x ++ y) = word.isPrefixOf x := by
  induction word generalizing x with
  | nil => rfl
  | cons c word ih =>
    cases x with
    | nil =>
      cases y with
      | nil => rfl
      | cons d y =>
        have hd : c ≠ d := by
          obtain rfl | rfl := hy.head d rfl
          · exact fun h => hword.1 (h ▸ List.mem_cons_self)
          · exact fun h => hword.2 (h ▸ List.mem_cons_self)
        simp [List.isPrefixOf, hd]
    | cons d x =>
      have hrest : '\\' ∉ word ∧ ')' ∉ word :=
        ⟨fun h => hword.1 (List.mem_cons_of_mem c h), fun h => hword.2 (List.mem_cons_of_mem c h)⟩
      simp only [List.cons_append, List.isPrefixOf, ih hrest]

theorem InStep.accept (h : Joined behind n s t) {word : String}
    (hword : '\\' ∉ word.toList ∧ ')' ∉ word.toList) :
    InStep (accept word) (fun _ => accept word) s t fun a b s' t' =>
      (a = false → s' = s ∧ t' = t) ∧ Agree behind n (fun a b => b = a) a b s' t' := by
  have hfront : ∀ i, word.toList.isPrefixOf (t i).rest = word.toList.isPrefixOf s.rest := by
    intro i
    obtain ⟨x, hx, hrest⟩ := h.exists_append i
    rw [hrest, isPrefixOf_append hx hword]
  simp only [Pattern.accept]
  refine .step rfl (fun _ => rfl) (.ite (fun i => by rw [hfront i]) (fun hfound => ?_) fun _ => ?_)
  · have hlength : word.length ≤ s.rest.length :=
      (List.isPrefixOf_iff_prefix.mp hfound).length_le
    refine .step rfl (fun _ => rfl) (.pure ⟨fun hfalse => ?_, h.advanceBy hlength, fun _ => rfl⟩)
    contradiction
  · exact .pure ⟨fun _ => ⟨rfl, rfl⟩, h, fun _ => rfl⟩

/-! ### Flags -/

/-- Signs that are the same, places apart. -/
abbrev SameSigns (signs signs' : List FlagSign) : Prop :=
  signs'.map Prod.fst = signs.map Prod.fst

/-- What was not written before has not been written elsewhere either, where no more was. -/
private theorem find?_fst_eq_none {κ : Type} [DecidableEq κ] {l l' : List (κ × Span)}
    (h : l'.map Prod.fst ⊆ l.map Prod.fst) {x : κ} (hl : l.find? (·.1 = x) = none) :
    l'.find? (·.1 = x) = none := by
  rw [List.find?_eq_none] at hl ⊢
  intro y hy hyx
  obtain ⟨z, hz, hzy⟩ := List.mem_map.mp (h (List.mem_map_of_mem hy))
  rw [← hzy] at hyx
  exact hl z hz hyx

/-- Goes on behind a sign. -/
private def moreSigns (m : Nat) (c : Char) (span : Span) (signs : List FlagSign)
    (sign : Option Flag) : Reading (List FlagSign) :=
  match signs.find? (·.1 = sign) with
  | some earlier =>
    throw ⟨if c = '-' then .flagRepeatedNegation else .flagDuplicate, span, some earlier.2⟩
  | none => do
    advance
    if ← atEnd then blame .flagUnexpectedEnd (← emptySpan)
    flagSigns m (signs ++ [(sign, span)])

theorem InStep.flagSigns (h : Joined behind n s t) {m : Nat} {m' : ι → Nat} (hm : ∀ i, m ≤ m' i)
    {signs : List FlagSign} {signs' : ι → List FlagSign}
    (hsigns : ∀ i, SameSigns signs (signs' i)) :
    InStep (flagSigns m signs) (fun i => flagSigns (m' i) (signs' i)) s t fun a b s' t' =>
      s'.rest ≠ [] ∧ Agree behind n SameSigns a b s' t' := by
  induction m generalizing s t m' signs signs' with
  | zero => exact .of_blames (.bind_right fun _ => .blame _ _)
  | succ m ih =>
    obtain ⟨m', rfl, hleft⟩ := exists_eq_succ hm
    simp only [Pattern.flagSigns]
    refine .next? h (fun c rest hs => ?_) fun _ => .of_blames (.bind_right fun _ => .blame _ _)
    have hs' : s.rest ≠ [] := by simp [hs]
    have hmore (sign : Option Flag) :
        InStep (moreSigns m c s.nextSpan signs sign)
          (fun i => moreSigns (m' i) c (t i).nextSpan (signs' i) sign) s t fun a b s' t' =>
            s'.rest ≠ [] ∧ Agree behind n SameSigns a b s' t' := by
      simp only [moreSigns]
      cases hfind : signs.find? (·.1 = sign) with
      | some earlier => exact .of_blames (.throw _)
      | none =>
        have hfind' : ∀ i, (signs' i).find? (·.1 = sign) = none :=
          fun i => find?_fst_eq_none (hsigns i ▸ List.Subset.refl _) hfind
        simp only [hfind']
        refine .advance (h.mono n.le_succ) hs' fun s₁ t₁ h₁ => ?_
        refine .notAtEnd h₁ (.bind_right fun _ => .bind_left (.blame _ _)) fun _ => ?_
        refine ih h₁ hleft fun i => ?_
        simp only [SameSigns, List.map_append, hsigns i, List.map_cons, List.map_nil]
    refine .ite (fun _ => .rfl) (fun _ => .pure ⟨hs', h, hsigns⟩) fun _ => ?_
    refine .step rfl (fun _ => rfl) ?_
    refine .ite (fun _ => .rfl) (fun _ => .step rfl (fun _ => rfl) (hmore none)) fun _ => ?_
    cases flagOf? c with
    | none => exact .of_blames (.bind_left (.blame _ _))
    | some flag => exact .step rfl (fun _ => rfl) (hmore (some flag))

/-- What signs change does not depend on their spans. -/
private theorem changesOf_eq {signs signs' : List FlagSign} (h : SameSigns signs signs')
    (on : Bool) : changesOf signs' on = changesOf signs on := by
  induction signs generalizing signs' on with
  | nil =>
    obtain rfl : signs' = [] := List.map_eq_nil_iff.mp h
    rfl
  | cons sign signs ih =>
    obtain ⟨sign', rest', rfl, hsign, hrest⟩ := List.map_eq_cons_iff.mp h
    obtain ⟨flag, span⟩ := sign
    obtain ⟨flag', span'⟩ := sign'
    obtain rfl : flag' = flag := hsign
    cases flag' <;> simp only [changesOf, ih hrest]

/-- What signs come to at the end of them. -/
private def changesAt (signs : List FlagSign) : Reading (List FlagChange) :=
  match signs.getLast? with
  | some (none, span) => blame .flagDanglingNegation span
  | _ => return changesOf signs true

private theorem changesAt_eq {signs : List FlagSign}
    (h : signs.getLast?.map Prod.fst ≠ some none) :
    changesAt signs = pure (changesOf signs true) := by
  rw [changesAt]
  split
  case h_1 span hlast =>
    rw [hlast] at h
    contradiction
  case h_2 => rfl

private theorem InStep.changesAt {signs : List FlagSign} {signs' : ι → List FlagSign}
    (hsigns : ∀ i, SameSigns signs (signs' i)) :
    InStep (changesAt signs) (fun i => changesAt (signs' i)) s t fun a b s' t' =>
      s' = s ∧ t' = t ∧ ∀ i, b i = a := by
  have hlast : ∀ i, (signs' i).getLast?.map Prod.fst = signs.getLast?.map Prod.fst := by
    intro i
    rw [← List.getLast?_map, ← List.getLast?_map, hsigns i]
  by_cases hdangling : signs.getLast?.map Prod.fst = some none
  · obtain ⟨⟨flag, span⟩, hsign, hflag⟩ := Option.map_eq_some_iff.mp hdangling
    obtain rfl : flag = none := hflag
    refine .of_blames ?_
    rw [Pattern.changesAt, hsign]
    exact .blame _ _
  · have hkept : ∀ i, Pattern.changesAt (signs' i) = Pure.pure (changesOf (signs' i) true) :=
      fun i => changesAt_eq (hlast i ▸ hdangling)
    rw [changesAt_eq hdangling]
    simp only [hkept]
    exact .pure ⟨rfl, rfl, fun i => changesOf_eq (hsigns i) true⟩

theorem InStep.flagChanges (h : Joined behind n s t) :
    InStep flagChanges (fun _ => flagChanges) s t fun a b s' t' =>
      s'.rest ≠ [] ∧ Agree behind n (fun a b => b = a) a b s' t' := by
  have hnone : ∀ _ : ι, SameSigns [] [] := fun _ => rfl
  simp only [Pattern.flagChanges]
  refine .step rfl (fun _ => rfl) ?_
  refine (InStep.flagSigns h (fun i => Nat.succ_le_succ (h.length_eq i)) hnone).bind ?_
  rintro signs signs' s₁ t₁ ⟨hs₁, h₁, hsigns⟩
  refine (InStep.changesAt hsigns).mono ?_
  rintro a b _ _ ⟨rfl, rfl, hab⟩
  exact ⟨hs₁, h₁, hab⟩

/-! ### Names -/

theorem InStep.nameChars (h : Joined behind n s t) {m : Nat} {m' : ι → Nat} (hm : ∀ i, m ≤ m' i)
    (name : List Char) :
    InStep (nameChars m name) (fun i => nameChars (m' i) name) s t fun a b s' t' =>
      s'.rest ≠ [] ∧ Agree behind n (fun a b => b = a) a b s' t' := by
  induction m generalizing s t m' name with
  | zero => exact .of_blames (.bind_right fun _ => .blame _ _)
  | succ m ih =>
    obtain ⟨m', rfl, hleft⟩ := exists_eq_succ hm
    simp only [Pattern.nameChars]
    refine .next? h (fun c rest hs => ?_) fun _ => .of_blames (.bind_right fun _ => .blame _ _)
    have hs' : s.rest ≠ [] := by simp [hs]
    refine .ite (fun _ => .rfl) (fun _ => .pure ⟨hs', h, fun _ => rfl⟩) fun _ => ?_
    refine .ite (fun _ => .rfl) (fun _ => ?_) fun _ => .of_blames (.bind_right fun _ => .blame _ _)
    exact .advance (h.mono n.le_succ) hs' fun s₁ t₁ h₁ => ih h₁ hleft _

theorem InStep.groupName (h : Joined behind n s t) :
    InStep groupName (fun _ => groupName) s t (Agree behind n fun a b => b = a) := by
  simp only [Pattern.groupName]
  refine .step rfl (fun _ => rfl) (.step rfl (fun _ => rfl) ?_)
  refine (InStep.nameChars h (fun i => Nat.succ_le_succ (h.length_eq i)) []).bind ?_
  rintro name name' s₁ t₁ ⟨hs₁, h₁, hname⟩
  simp only [hname]
  refine .step rfl (fun _ => rfl) (.advance (h₁.mono n.le_succ) hs₁ fun s₂ t₂ h₂ => ?_)
  refine .ite (fun _ => .rfl) (fun _ => .of_blames (.bind_left (.blame _ _))) fun _ => ?_
  refine .step rfl (fun _ => rfl) ?_
  cases hfind : s₂.names.find? (·.1 = name) with
  | some earlier => exact .of_blames (.throw _)
  | none =>
    have hfind' : ∀ i, (t₂ i).names.find? (·.1 = name) = none :=
      fun i => find?_fst_eq_none (h₂.names_subset i) hfind
    simp only [hfind']
    have hnames : ∀ (i : ι) (span span' : Span), ((name, span') :: (t₂ i).names).map Prod.fst ⊆
        ((name, span) :: s₂.names).map Prod.fst :=
      fun i _ _ => List.cons_subset_cons name (h₂.names_subset i)
    exact .step rfl (fun _ => rfl)
      (.pure ⟨{ h₂ with names_subset := fun i => hnames i _ _ }, fun _ => rfl⟩)

/-! ### What opens a group -/

/-- Blames a word that comes next. -/
private def refuse (words : List String) (place : Place) : Reading PUnit :=
  forIn words PUnit.unit fun word _ => do
    if ← accept word then blame .lookAround (← spanFrom place)
    return .yield ⟨⟩

private theorem InStep.refuse (h : Joined behind n s t) {words : List String}
    (hwords : ∀ word ∈ words, '\\' ∉ word.toList ∧ ')' ∉ word.toList) (place : Place)
    (place' : ι → Place) :
    InStep (refuse words place) (fun i => refuse words (place' i)) s t fun _ _ s' t' =>
      s' = s ∧ t' = t := by
  induction words with
  | nil => exact .pure ⟨rfl, rfl⟩
  | cons word words ih =>
    have hword := hwords word List.mem_cons_self
    have hrest := ih fun w hw => hwords w (List.mem_cons_of_mem _ hw)
    simp only [Pattern.refuse, List.forIn_cons, bind_assoc] at hrest ⊢
    refine (InStep.accept h hword).bind fun found found' s₁ t₁ ⟨hsame, h₁, hfound⟩ => ?_
    simp only [hfound]
    cases found with
    | true =>
      simp only [if_true]
      exact .of_blames (.bind_left (.bind_right fun _ => .bind_left (.blame _ _)))
    | false =>
      obtain ⟨rfl, rfl⟩ := hsame rfl
      simp only [Bool.false_eq_true, if_false]
      exact .step rfl (fun _ => rfl) hrest

theorem InStep.opening (h : Joined behind n s t) (opened : Span) (opened' : ι → Span) :
    InStep (opening opened) (fun i => opening (opened' i)) s t
      (Agree behind n fun a b => b = a) := by
  simp only [Pattern.opening]
  refine .skip h fun s₁ t₁ h₁ => ?_
  have hwords : ∀ word ∈ ["?=", "?!", "?<=", "?<!"],
      '\\' ∉ word.toList ∧ ')' ∉ word.toList := by decide
  refine (InStep.refuse h₁ hwords opened.first fun i => (opened' i).first).bind ?_
  rintro - - _ _ ⟨rfl, rfl⟩
  refine .step rfl (fun _ => rfl) ?_
  refine (InStep.accept h₁ (by decide)).bind fun found found' s₂ t₂ ⟨_, h₂, hfound⟩ => ?_
  simp only [hfound]
  refine .ite (fun _ => .rfl) (fun _ => ?_) fun _ => ?_
  · refine (InStep.groupName h₂).bind fun name name' s₃ t₃ ⟨h₃, hname⟩ => ?_
    exact .pure ⟨h₃, fun i => by simp only [hname]⟩
  refine (InStep.accept h₂ (by decide)).bind fun found found' s₃ t₃ ⟨_, h₃, hfound⟩ => ?_
  simp only [hfound]
  refine .ite (fun _ => .rfl) (fun _ => ?_) fun _ => ?_
  · refine (InStep.groupName h₃).bind fun name name' s₄ t₄ ⟨h₄, hname⟩ => ?_
    exact .pure ⟨h₄, fun i => by simp only [hname]⟩
  refine (InStep.accept h₃ (by decide)).bind fun found found' s₄ t₄ ⟨_, h₄, hfound⟩ => ?_
  simp only [hfound]
  refine .ite (fun _ => .rfl) (fun _ => ?_) fun _ => .pure ⟨h₄, fun _ => rfl⟩
  refine .notAtEnd h₄ (.bind_left (.blame _ _)) fun _ => ?_
  refine (InStep.flagChanges h₄).bind fun changes changes' s₅ t₅ ⟨hs₅, h₅, hchanges⟩ => ?_
  simp only [hchanges]
  refine .next? h₅ (fun c rest hs => ?_) fun hs => absurd hs hs₅
  refine .advance (h₅.mono n.le_succ) hs₅ fun s₆ t₆ h₆ => ?_
  refine .ite (fun _ => .rfl) (fun _ => ?_) fun _ => .pure ⟨h₆, fun _ => rfl⟩
  refine .ite (fun _ => .rfl) (fun _ => .of_blames (.bind_left (.blame _ _))) fun _ => ?_
  exact .pure ⟨h₆, fun _ => rfl⟩

/-! ### Groups -/

/-- Whether blanks are skipped can be changed in all sources at once. -/
theorem Joined.setVerbose (h : Joined behind n s t) (verbose : Bool) :
    Joined behind n { s with verbose := verbose } fun i => { t i with verbose := verbose } :=
  { h with verbose_eq := fun _ => rfl }

/-- Stacks that lie beneath one another, with all that is open. -/
def Stacked (behind : ι → List Char) (base : ι → Below) (n : Nat) :
    Outcome ι (Run × List Frame) (Run × List Frame) := fun a b s t =>
  Joined behind n s t ∧ ∀ i, Beneath (base i) a.1 a.2 (b i).1 (b i).2

theorem InStep.openGroup (h : Joined behind (n + 1) s t) (hs : s.rest ≠ [])
    (hr : ∀ i, Beneath (base i) r frames (r' i) (frames' i)) :
    InStep (openGroup r frames) (fun i => openGroup (r' i) (frames' i)) s t
      (Stacked behind base n) := by
  simp only [Pattern.openGroup]
  refine .step rfl (fun _ => rfl) (.advance h hs fun s₁ t₁ h₁ => ?_)
  refine (InStep.opening h₁ _ _).bind fun opened opened' s₂ t₂ ⟨h₂, hopened⟩ => ?_
  simp only [hopened]
  cases opened with
  | flags changes =>
    refine .step rfl (fun _ => rfl) (.pure ⟨?_, fun i => (hr i).push rfl⟩)
    simp only [h₂.verbose_eq]
    exact h₂.setVerbose _
  | group kind =>
    refine .step rfl (fun _ => rfl) (.step rfl (fun _ => rfl) (.step rfl (fun _ => rfl) ?_))
    simp only [h₂.verbose_eq]
    have hnew : ∀ i, SameTrees (Run.startingAt s₂.place).members
        (Run.startingAt (t₂ i).place).members := fun _ => rfl
    exact .pure ⟨h₂.setVerbose _, fun i => .inGroup (hnew i) (hr i)⟩

theorem InStep.closeGroup (h : Joined behind (n + 1) s t) (hs : s.rest ≠ [])
    (hr : ∀ i, Beneath (base i) r frames (r' i) (frames' i)) :
    InStep (closeGroup r frames) (fun i => closeGroup (r' i) (frames' i)) s t
      (Stacked behind base n) := by
  simp only [Pattern.closeGroup]
  refine .step rfl (fun _ => rfl) (.step rfl (fun _ => rfl) ?_)
  by_cases hgroup : ∃ before opened kind verbose others,
      (closeAlternatives r frames s.place).2 = .group before opened kind verbose :: others
  · obtain ⟨before, opened, kind, verbose, others, hclose⟩ := hgroup
    choose before' opened' others' hclose' hbody houter using
      fun i => (hr i).closed s.place (t i).place hclose
    simp only [hclose, hclose']
    refine .step rfl (fun _ => rfl) (.advance (h.setVerbose verbose) hs fun s₁ t₁ h₁ => ?_)
    refine .step rfl (fun _ => rfl) (.pure ⟨h₁, fun i => (houter i).push ?_⟩)
    simp only [Tree.bare, hbody i]
  · refine .of_blames ?_
    split
    · exact absurd ⟨_, _, _, _, _, ‹_›⟩ hgroup
    · exact .blame _ _

theorem InStep.nextAlternative (h : Joined behind (n + 1) s t) (hs : s.rest ≠ [])
    (hr : ∀ i, Beneath (base i) r frames (r' i) (frames' i)) :
    InStep (nextAlternative r frames) (fun i => nextAlternative (r' i) (frames' i)) s t
      (Stacked behind base n) := by
  intro a s' hrun
  obtain ⟨rfl, rfl⟩ :=
    Prod.mk.inj (Except.ok.inj ((run_nextAlternative r frames s).symm.trans hrun))
  exact ⟨_, _, fun i => run_nextAlternative (r' i) (frames' i) (t i), h.advance hs,
    fun i => (hr i).nextBranch _ _ _ _⟩

end Pattern

end Timekeeper
