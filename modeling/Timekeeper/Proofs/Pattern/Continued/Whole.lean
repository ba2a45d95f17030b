import Timekeeper.Proofs.Pattern.Continued.Group
import Timekeeper.Proofs.Pattern.Reading

/-!
# Whole fragments with more behind them

One sign of a pattern is read in step (`InStep.sign`), and so, sign after sign, is all of a
fragment: where the fragment ends, the other readings stand in front of the texts behind it, or
at their own ends if a comment took these (`exists_end_of_run_patternBody`).

With no text behind it, a fragment is read **elsewhere**: at another place, with something else
below it and with fewer names used, it leaves the same open on top of that (`Elsewhere.exists_end`)
and, with the same below it, comes to the same tree (`Elsewhere.exists_run`).
-/

namespace Timekeeper

namespace Pattern

variable {ι : Type} {behind : ι → List Char} {base : ι → Below} {n : Nat} {s : Source}
  {t : ι → Source} {r : Run} {r' : ι → Run} {frames : List Frame} {frames' : ι → List Frame}

/-! ### One sign -/

theorem InStep.atom (h : Joined behind (n + 1) s t) (hs : s.rest ≠ []) :
    InStep atom (fun _ => atom) s t (Agree behind n SameTree) := by
  simp only [Pattern.atom]
  refine .step rfl (fun _ => rfl) ?_
  refine .next? h (fun c rest hcons => ?_) fun hnil => absurd hnil hs
  split
  case h_1 => contradiction
  case h_2 => exact .escape h hs
  case h_3 =>
    refine .advance h hs fun s₁ t₁ h₁ => ?_
    split
    · exact .pure ⟨h₁, fun _ => rfl⟩
    · exact .pure ⟨h₁, fun _ => rfl⟩
    · exact .pure ⟨h₁, fun _ => rfl⟩
    · exact .pure ⟨h₁, fun _ => rfl⟩

/-- Reads one sign of a pattern, which is the next character, with what belongs to it. -/
private def sign (c : Char) (r : Run) (frames : List Frame) : Reading (Run × List Frame) :=
  match c with
  | '(' => openGroup r frames
  | ')' => closeGroup r frames
  | '|' => nextAlternative r frames
  | '[' => return (r.push (← bracketedClass), frames)
  | '?' => return (← signRepetition 0 (some 1) r, frames)
  | '*' => return (← signRepetition 0 none r, frames)
  | '+' => return (← signRepetition 1 none r, frames)
  | '\x7b' => return (← countedRepetition r, frames)
  | _ => return (r.push (← atom), frames)

private theorem bind_pure_bind {α β γ : Type} (f : Reading α) (g : α → β) (k : β → Reading γ) :
    (f >>= fun x => pure (g x)) >>= k = f >>= fun x => k (g x) := by
  simp only [bind_assoc, pure_bind]

/-- The reader of patterns reads sign after sign. -/
private theorem patternBody_succ (n : Nat) (r : Run) (frames : List Frame) :
    patternBody (n + 1) r frames = (do
      skip
      match ← next? with
      | none => closePattern r frames
      | some c => sign c r frames >>= fun x => patternBody n x.1 x.2) := by
  rw [patternBody]
  congr 1
  funext _
  congr 1
  funext c
  split
  case h_10 c h₁ h₂ h₃ h₄ h₅ h₆ h₇ h₈ =>
    have hsign : sign c r frames = atom >>= fun t => pure (r.push t, frames) := by
      unfold sign
      split <;> first | rfl | contradiction
    dsimp only
    rw [hsign, bind_pure_bind]
  all_goals
    first
    | rfl
    | exact (bind_pure_bind _ (fun t => (r.push t, frames)) fun x => patternBody n x.1 x.2).symm
    | exact (bind_pure_bind _ (fun q => (q, frames)) fun x => patternBody n x.1 x.2).symm

/-- One sign of the fragment, with whatever is open. -/
private theorem InStep.sign (h : Joined behind (n + 1) s t) {c : Char} {rest : List Char}
    (hs : s.rest = c :: rest) (hr : ∀ i, Beneath (base i) r frames (r' i) (frames' i)) :
    InStep (sign c r frames) (fun i => sign c (r' i) (frames' i)) s t (Stacked behind base n) := by
  have hs' : s.rest ≠ [] := by simp [hs]
  have hpush {f : Reading Tree} (hf : InStep f (fun _ => f) s t (Agree behind n SameTree)) :
      InStep (f >>= fun x => Pure.pure (r.push x, frames))
        (fun i => f >>= fun x => Pure.pure ((r' i).push x, frames' i)) s t
        (Stacked behind base n) :=
    hf.bind fun _ _ _ _ ⟨h₁, hsame⟩ => .pure ⟨h₁, fun i => (hr i).push (hsame i)⟩
  have hrepeat {f : Run → Reading Run}
      (hf : InStep (f r) (fun i => f (r' i)) s t (Lies behind base n frames frames')) :
      InStep (f r >>= fun x => Pure.pure (x, frames))
        (fun i => f (r' i) >>= fun x => Pure.pure (x, frames' i)) s t (Stacked behind base n) :=
    hf.bind fun _ _ _ _ h₁ => .pure h₁
  unfold Pattern.sign
  split
  · exact .openGroup h hs' hr
  · exact .closeGroup h hs' hr
  · exact .nextAlternative h hs' hr
  · exact hpush (.bracketedClass h hs')
  · exact hrepeat (.signRepetition h hs' 0 (some 1) hr)
  · exact hrepeat (.signRepetition h hs' 0 none hr)
  · exact hrepeat (.signRepetition h hs' 1 none hr)
  · exact hrepeat (.countedRepetition h hs' hr)
  · exact hpush (.atom h hs')

/-! ### All signs -/

theorem run_closePattern : (closePattern r frames).run s =
    match closeAlternatives r frames s.place with
    | (_, .group _ opened _ _ :: _) => .error ⟨.groupUnclosed, opened, none⟩
    | (tree, _) => .ok (tree, s) := by
  have hhere : here.run s = .ok (s.place, s) := rfl
  rw [closePattern, run_bind_ok hhere]
  obtain ⟨tree, others⟩ := closeAlternatives r frames s.place
  match others with
  | [] => rfl
  | .group _ _ _ _ :: _ => rfl
  | .alternatives _ _ :: _ => rfl

theorem eq_of_run_closePattern {tree : Tree} {last : Source}
    (h : (closePattern r frames).run s = .ok (tree, last)) :
    tree = (closeAlternatives r frames s.place).1 ∧ last = s := by
  rw [run_closePattern] at h
  split at h
  · contradiction
  · rename_i hpair
    obtain ⟨rfl, rfl⟩ := Prod.mk.inj (Except.ok.inj h)
    exact ⟨(congrArg Prod.fst hpair).symm, rfl⟩

/-- Reading all of a fragment alone leads to its end, and the other readings to the texts behind
it, with what is open on stacks that lie beneath one another. -/
theorem exists_end_of_run_patternBody (h : Joined behind n s t) {m : Nat} (hm : n < m)
    (extra : ι → Nat) (hr : ∀ i, Beneath (base i) r frames (r' i) (frames' i)) {tree : Tree}
    {last : Source} (hrun : (patternBody m r frames).run s = .ok (tree, last)) :
    ∃ (k : Nat) (t₁ : ι → Source) (q : Run) (q' : ι → Run) (open₁ : List Frame)
      (open' : ι → List Frame),
      Joined behind 0 last t₁ ∧ (∀ i, Beneath (base i) q open₁ (q' i) (open' i)) ∧
      (closePattern q open₁).run last = .ok (tree, last) ∧
      ∀ i, (patternBody (m + extra i) (r' i) (frames' i)).run (t i) =
        (patternBody (k + 1 + extra i) (q' i) (open' i)).run (t₁ i) := by
  induction m generalizing n s t r r' frames frames' with
  | zero => omega
  | succ m ih =>
    have hskip (s : Source) : Pattern.skip.run s = .ok (⟨⟩, s.skip) := rfl
    have hnext (s : Source) : next?.run s = .ok (s.rest.head?, s) := rfl
    have h₁ := h.skip
    rw [patternBody_succ, run_bind_ok (hskip s), run_bind_ok (hnext _)] at hrun
    cases hs : s.skip.rest with
    | nil =>
      rw [hs] at hrun
      obtain ⟨-, rfl⟩ := eq_of_run_closePattern hrun
      refine ⟨m, fun i => (t i).skip, r, r', frames, frames', ?_, hr, hrun, fun i => ?_⟩
      · exact { h₁ with length_le := by rw [hs]; exact le_rfl }
      · have hdetached : (t i).skip.skip = (t i).skip :=
          Source.skip_of_detached (h₁.of_nil hs i)
        rw [Nat.add_right_comm, patternBody_succ, run_bind_ok (hskip _), run_bind_ok (hskip _),
          hdetached]
    | cons c rest =>
      rw [hs] at hrun
      obtain ⟨a, s₂, hsign, hrun⟩ := exists_of_run_bind_eq_ok hrun
      obtain ⟨n, rfl⟩ : ∃ k, n = k + 1 := by
        have hlength := h₁.length_le
        rw [hs, List.length_cons] at hlength
        exact ⟨n - 1, by omega⟩
      obtain ⟨b, t₂, hsigns, h₂, hr₂⟩ := InStep.sign h₁ hs hr a s₂ hsign
      obtain ⟨k, t₃, q, q', open₁, open', h₃, hq, hclose, heq⟩ := ih h₂ (by omega) hr₂ hrun
      refine ⟨k, t₃, q, q', open₁, open', h₃, hq, hclose, fun i => ?_⟩
      have hhead : (t i).skip.rest.head? = some c := by
        rw [h₁.of_cons hs i]
        rfl
      rw [← heq i, Nat.add_right_comm, patternBody_succ, run_bind_ok (hskip _),
        run_bind_ok (hnext _), hhead]
      exact run_bind_ok (hsigns i)

/-! ### The ends of fragments -/

/-- At the end of a pattern the reader ends it. -/
theorem run_patternBody_of_rest_eq_nil (hs : s.rest = []) (m : Nat) :
    (patternBody m r frames).run s = (closePattern r frames).run s := by
  cases m with
  | zero => rfl
  | succ m =>
    have hskip : skip.run s = .ok (⟨⟩, s) := by
      have hdetached : s.skip = s := Source.skip_of_detached (hs ▸ .nil)
      exact congrArg (fun s' => Except.ok (PUnit.unit, s')) hdetached
    have hnext : next?.run s = .ok (none, s) :=
      congrArg (fun rest : List Char => Except.ok (rest.head?, s)) hs
    rw [patternBody_succ, run_bind_ok hskip, run_bind_ok hnext]

/-- Whether a tree is that of several alternatives. -/
def Tree.isAlternatives : Tree → Bool
  | alternatives _ _ => true
  | _ => false

/-- A pattern without alternatives ends in the sequence that is read first. -/
theorem eq_close_of_run_closePattern {tree : Tree} {last : Source}
    (h : (closePattern r frames).run s = .ok (tree, last))
    (hone : tree.isAlternatives = false) : frames = [] ∧ tree = r.close s.place := by
  rw [run_closePattern] at h
  match frames with
  | [] =>
    obtain ⟨rfl, -⟩ := Prod.mk.inj (Except.ok.inj h)
    exact ⟨rfl, rfl⟩
  | .group _ _ _ _ :: _ => contradiction
  | .alternatives first branches :: others =>
    obtain ⟨branch, rest, -, heq⟩ := closeAlternatives_eq r first branches others s.place
    rw [heq] at h
    split at h
    · contradiction
    · rename_i hpair
      obtain ⟨rfl, -⟩ := Prod.mk.inj (Except.ok.inj h)
      obtain ⟨rfl, -⟩ := Prod.mk.inj hpair
      contradiction

/-- Where a pattern ends no group is open, so that at most alternatives are left on the stack. -/
theorem Beneath.eq_of_run_closePattern {below : Below} {r r' : Run} {frames frames' : List Frame}
    (h : Beneath below r frames r' frames') {tree : Tree} {last : Source}
    (hrun : (closePattern r frames).run s = .ok (tree, last)) :
    frames = [] ∨ ∃ first branches, frames = [.alternatives first branches] := by
  rw [run_closePattern] at hrun
  cases h with
  | sequence members held => exact .inl rfl
  | branch members later earliest => exact .inr ⟨_, _, rfl⟩
  | inGroup members outer => contradiction
  | branchInGroup members others outer =>
    obtain ⟨_, _, -, heq⟩ := closeAlternatives_eq r _ _ (.group _ _ _ _ :: _) s.place
    rw [heq] at hrun
    contradiction

/-- With nothing beneath it, what is open comes to the same tree. -/
theorem Beneath.exists_closePattern {r r' : Run} {frames frames' : List Frame}
    (h : Beneath ⟨[], []⟩ r frames r' frames') {tree : Tree} {last : Source}
    (hrun : (closePattern r frames).run s = .ok (tree, last)) (s' : Source) :
    ∃ tree', (closePattern r' frames').run s' = .ok (tree', s') ∧ tree'.bare = tree.bare := by
  rw [run_closePattern] at hrun ⊢
  cases h with
  | sequence members held =>
    obtain rfl := held.eq_nil
    obtain ⟨rfl, -⟩ := Prod.mk.inj (Except.ok.inj hrun)
    have hmembers : SameTrees r.members r'.members := by simpa using members
    exact ⟨r'.close s'.place, rfl, hmembers.bare_close s.place s'.place⟩
  | @branch _ _ first first' branches branches' branch branch' members later earliest =>
    obtain ⟨q, q', place, place', rfl, rfl, hended⟩ := earliest
    have hearliest : SameTrees q.members q'.members := by simpa using hended
    have hbranches : SameTrees (branches ++ [q.close place]) (branches' ++ [q'.close place']) := by
      simp only [SameTrees, List.map_append, List.map_cons, List.map_nil, later,
        hearliest.bare_close place place']
    have hbare := members.bare_closeAlternatives hbranches first first' [] [] s.place s'.place
    obtain ⟨_, _, -, heq⟩ := closeAlternatives_eq r first _ [] s.place
    obtain ⟨_, _, -, heq'⟩ := closeAlternatives_eq r' first' _ [] s'.place
    rw [heq, heq'] at hbare
    rw [heq] at hrun
    rw [heq']
    obtain ⟨rfl, -⟩ := Prod.mk.inj (Except.ok.inj hrun)
    exact ⟨_, rfl, hbare⟩
  | inGroup members outer => contradiction
  | branchInGroup members others outer =>
    obtain ⟨_, _, -, heq⟩ := closeAlternatives_eq r _ _ (.group _ _ _ _ :: _) s.place
    rw [heq] at hrun
    contradiction

/-! ### Reading once more -/

section Again

variable {s' : Source} {q q' : Run} {frames' : List Frame} {m : Nat} {tree : Tree} {last : Source}

/-- A source of the same text, in which no more names are used. -/
structure Elsewhere (s s' : Source) : Prop where
  rest_eq : s'.rest = s.rest
  verbose_eq : s'.verbose = s.verbose
  names_subset : s'.names.map Prod.fst ⊆ s.names.map Prod.fst

/-- Reading the same text elsewhere, on top of what is below it there, leads to the same on top of
that. -/
theorem Elsewhere.exists_end (h : Elsewhere s s') {base : Below} (extra : Nat)
    (hq : Beneath base q frames q' frames') (hm : s.rest.length < m)
    (hrun : (patternBody m q frames).run s = .ok (tree, last)) :
    ∃ r open₁ r' open' last', Beneath base r open₁ r' open' ∧
      (closePattern r open₁).run last = .ok (tree, last) ∧
      (patternBody (m + extra) q' frames').run s' = (closePattern r' open').run last' := by
  have hjoined : Joined (fun _ : Unit => []) s.rest.length s fun _ => s' :=
    ⟨fun _ => .nil, le_rfl, fun _ => h.verbose_eq, fun _ => h.names_subset,
      .inl fun _ => by rw [h.rest_eq, List.append_nil]⟩
  obtain ⟨k, t, r, r', open₁, open', hend, hopen, hclose, heq⟩ :=
    exists_end_of_run_patternBody hjoined hm (fun _ => extra) (fun _ => hq) hrun
  have ht : (t ()).rest = [] := by
    obtain hrest | ⟨-, hnil⟩ := hend.rest_eq
    · rw [hrest, hend.rest_eq_nil, List.append_nil]
    · exact hnil ()
  exact ⟨r, open₁, r' (), open' (), t (), hopen (), hclose,
    (heq ()).trans (run_patternBody_of_rest_eq_nil ht _)⟩

/-- Reading the same text elsewhere comes to the same tree, places apart. -/
theorem Elsewhere.exists_run (h : Elsewhere s s') (extra : Nat)
    (hq : Beneath ⟨[], []⟩ q frames q' frames') (hm : s.rest.length < m)
    (hrun : (patternBody m q frames).run s = .ok (tree, last)) :
    ∃ tree' last', (patternBody (m + extra) q' frames').run s' = .ok (tree', last') ∧
      tree'.bare = tree.bare := by
  obtain ⟨_, _, _, _, last', hopen, hclose, heq⟩ := h.exists_end extra hq hm hrun
  obtain ⟨tree', hclose', hbare⟩ := hopen.exists_closePattern hclose last'
  exact ⟨tree', last', heq.trans hclose', hbare⟩

end Again

end Pattern

end Timekeeper
