import Timekeeper.Proofs.Grammar.Accepted
import Timekeeper.Proofs.Pattern.Continued.Whole
import Timekeeper.Proofs.Pattern.Matches

/-!
# Fragments of patterns

A **fragment** of a pattern is read on its own, but in the mode that the pattern before it leaves.
Where the reader makes one sequence of two fragments, the plan of the sequence matches as the plan
of the first fragment and then that of the second one (`Tree.exists_plan_of_inOrder_append`). Of
alternatives only the last one is in such a sequence, so that the others match without the second
fragment (`Tree.exists_plan_of_inChoice_concat`). A fragment that **passes** a named group on its
way leaves a text under that name with every match (`Plan.Matches.exists_of_passes`).
-/

namespace Timekeeper

namespace Pattern

/-- What a fragment comes to in a mode: its plan, and the mode behind it. -/
def fragment (m : Mode) (text : List Char) : Except Blame (Plan × Mode) := do
  let tree ← Tree.read text
  tree.plan m

theorem fragment_of_read {text : List Char} {tree : Tree} (h : Tree.read text = .ok tree)
    (m : Mode) : fragment m text = tree.plan m := by
  rw [fragment, h]
  rfl

/-! ### Reading and compiling -/

theorem Tree.read_eq_ok_iff {text : List Char} {tree : Tree} :
    Tree.read text = .ok tree ↔ tree.checkDepth 0 = .ok ⟨⟩ ∧ ∃ last,
      (patternBody (text.length + 1) (.startingAt .start) []).run (.ofText text) =
        .ok (tree, last) := by
  rw [Tree.read]
  dsimp only
  constructor
  · intro h
    obtain ⟨⟨tree', last⟩, hrun, h⟩ := exists_of_bind_eq_ok h
    obtain ⟨⟨⟩, hdepth, h⟩ := exists_of_bind_eq_ok h
    obtain rfl := Except.ok.inj h
    exact ⟨hdepth, last, hrun⟩
  · rintro ⟨hdepth, last, hrun⟩
    rw [hrun]
    change (tree.checkDepth 0 >>= fun _ => Except.ok tree) = _
    rw [hdepth]
    rfl

theorem compile_eq_ok_iff {text : List Char} {plan : Plan} :
    compile text = .ok plan ↔ ∃ tree mode, Tree.read text = .ok tree ∧
      tree.plan .initial = .ok (plan, mode) ∧ tree.weight ≤ sizeLimit := by
  rw [compile]
  constructor
  · intro h
    split at h
    · contradiction
    rename_i tree hread
    split at h
    · contradiction
    rename_i plan' mode hplan
    split at h
    · contradiction
    rename_i hweight
    obtain rfl := Except.ok.inj h
    exact ⟨tree, mode, hread, hplan, Nat.le_of_not_lt hweight⟩
  · rintro ⟨tree, mode, hread, hplan, hweight⟩
    rw [hread]
    dsimp only
    rw [hplan]
    exact if_neg (Nat.not_lt_of_le hweight)

/-- A text that is read as the same tree, places apart, comes to the same plan. -/
theorem compile_eq_ok_of_run {text other : List Char} {plan : Plan} (h : compile text = .ok plan)
    {tree tree' : Tree} (hread : Tree.read text = .ok tree) {last : Source}
    (hrun : (patternBody (other.length + 1) (.startingAt .start) []).run (.ofText other) =
      .ok (tree', last)) (hbare : tree'.bare = tree.bare) : compile other = .ok plan := by
  obtain ⟨tree₁, mode, hread₁, hplan, hweight⟩ := compile_eq_ok_iff.mp h
  obtain rfl : tree = tree₁ := Except.ok.inj (hread.symm.trans hread₁)
  obtain ⟨hdepth, -⟩ := Tree.read_eq_ok_iff.mp hread
  have hdepth' := Tree.checkDepth_eq_ok_of_bare_eq hbare.symm hdepth
  refine compile_eq_ok_iff.mpr ⟨tree', mode, ?_, ?_, ?_⟩
  · exact Tree.read_eq_ok_iff.mpr ⟨hdepth', last, hrun⟩
  · exact Tree.plan_eq_ok_of_bare_eq hbare.symm hplan
  · rwa [Tree.weight_of_bare_eq hbare]

/-! ### Members in order -/

/-- The tree of some members behind one another. -/
def Tree.inOrder : List Tree → Tree
  | [] => .empty
  | t :: ts => .chain t ts

/-- A sequence means what its members behind one another mean. -/
theorem Run.plan_close (r : Run) (last : Place) (m : Mode) :
    (r.close last).plan m = (Tree.inOrder r.members.reverse).plan m := by
  rw [close]
  cases r.members.reverse with
  | nil => rfl
  | cons t ts => cases ts <;> rfl

theorem Plan.matches_sequence_empty (p : Plan) : (sequence p empty).Matches = p.Matches := by
  funext c s c' s'
  simp only [Matches, exists_eq_right_right', exists_eq_right']

theorem Plan.matches_empty_sequence (p : Plan) : (sequence empty p).Matches = p.Matches := by
  funext c s c' s'
  refine propext ⟨?_, fun h => ⟨c, s, ⟨rfl, rfl⟩, h⟩⟩
  rintro ⟨_, _, ⟨rfl, rfl⟩, h⟩
  exact h

theorem Plan.matches_sequence_sequence (p q r : Plan) :
    (sequence (sequence p q) r).Matches = (sequence p (sequence q r)).Matches := by
  funext c s c' s'
  refine propext ⟨?_, ?_⟩
  · rintro ⟨c₂, s₂, ⟨c₁, s₁, hp, hq⟩, hr⟩
    exact ⟨c₁, s₁, hp, c₂, s₂, hq, hr⟩
  · rintro ⟨c₁, s₁, hp, c₂, s₂, hq, hr⟩
    exact ⟨c₂, s₂, ⟨c₁, s₁, hp, hq⟩, hr⟩

theorem Plan.matches_sequence_congr {p p' q q' : Plan} (hp : p.Matches = p'.Matches)
    (hq : q.Matches = q'.Matches) : (sequence p q).Matches = (sequence p' q').Matches := by
  simp only [Matches, hp, hq]

namespace Tree

variable {t : Tree} {ts us : List Tree} {m m' : Mode} {p : Plan}

/-! ### What composite trees come to -/

theorem exists_of_plan_pair {u : Tree} (h : (pair t u).plan m = .ok (p, m')) :
    ∃ a m₁ b, t.plan m = .ok (a, m₁) ∧ u.plan m₁ = .ok (b, m') ∧ p = .sequence a b := by
  obtain ⟨⟨a, m₁⟩, ha, h⟩ := exists_of_bind_eq_ok h
  obtain ⟨⟨b, m₂⟩, hb, h⟩ := exists_of_bind_eq_ok h
  obtain ⟨rfl, rfl⟩ := Prod.mk.inj (Except.ok.inj h)
  exact ⟨a, m₁, b, ha, hb, rfl⟩

theorem exists_of_plan_choice {u : Tree} (h : (choice t u).plan m = .ok (p, m')) :
    ∃ a m₁ b, t.plan m = .ok (a, m₁) ∧ u.plan m₁ = .ok (b, m') ∧ p = a.or b := by
  obtain ⟨⟨a, m₁⟩, ha, h⟩ := exists_of_bind_eq_ok h
  obtain ⟨⟨b, m₂⟩, hb, h⟩ := exists_of_bind_eq_ok h
  obtain ⟨rfl, rfl⟩ := Prod.mk.inj (Except.ok.inj h)
  exact ⟨a, m₁, b, ha, hb, rfl⟩

theorem exists_of_plan_group {span : Span} {kind : GroupKind}
    (h : (group span kind t).plan m = .ok (p, m')) :
    ∃ a m₁, t.plan (m.changeAll kind.changes) = .ok (a, m₁) ∧ p = kind.plan a := by
  obtain ⟨⟨a, m₁⟩, ha, h⟩ := exists_of_bind_eq_ok h
  obtain ⟨rfl, rfl⟩ := Prod.mk.inj (Except.ok.inj h)
  exact ⟨a, m₁, ha, rfl⟩

/-! ### Members in order -/

theorem exists_plan_of_inOrder_cons (h : (inOrder (t :: ts)).plan m = .ok (p, m')) :
    ∃ a m₁ b, t.plan m = .ok (a, m₁) ∧ (inOrder ts).plan m₁ = .ok (b, m') ∧
      p.Matches = (Plan.sequence a b).Matches := by
  cases ts with
  | nil => exact ⟨p, m', .empty, h, rfl, p.matches_sequence_empty.symm⟩
  | cons u us =>
    obtain ⟨a, m₁, b, ha, hb, rfl⟩ := exists_of_plan_pair h
    exact ⟨a, m₁, b, ha, hb, rfl⟩

theorem exists_plan_inOrder_cons {a b : Plan} {m₁ : Mode} (ha : t.plan m = .ok (a, m₁))
    (hb : (inOrder ts).plan m₁ = .ok (b, m')) :
    ∃ p, (inOrder (t :: ts)).plan m = .ok (p, m') ∧ p.Matches = (Plan.sequence a b).Matches := by
  cases ts with
  | nil =>
    obtain ⟨rfl, rfl⟩ := Prod.mk.inj (Except.ok.inj hb)
    exact ⟨a, ha, a.matches_sequence_empty.symm⟩
  | cons u us =>
    refine ⟨.sequence a b, ?_, rfl⟩
    change (t.plan m >>= _) = _
    rw [ha]
    change ((chain u us).plan m₁ >>= _) = _
    rw [show (chain u us).plan m₁ = _ from hb]
    rfl

/-- Members behind members match behind them. -/
theorem exists_plan_of_inOrder_append (h : (inOrder (ts ++ us)).plan m = .ok (p, m')) :
    ∃ a m₁ b, (inOrder ts).plan m = .ok (a, m₁) ∧ (inOrder us).plan m₁ = .ok (b, m') ∧
      p.Matches = (Plan.sequence a b).Matches := by
  induction ts generalizing m p with
  | nil => exact ⟨.empty, m, p, rfl, h, p.matches_empty_sequence.symm⟩
  | cons t ts ih =>
    obtain ⟨a, m₁, q, ha, hq, hp⟩ := exists_plan_of_inOrder_cons h
    obtain ⟨b, m₂, d, hb, hd, hqmatches⟩ := ih hq
    obtain ⟨ab, hab, habmatches⟩ := exists_plan_inOrder_cons ha hb
    refine ⟨ab, m₂, d, hab, hd, ?_⟩
    rw [hp, Plan.matches_sequence_congr rfl hqmatches, ← Plan.matches_sequence_sequence]
    exact Plan.matches_sequence_congr habmatches.symm rfl

/-! ### Alternatives in order -/

/-- The tree of some alternatives, the earlier ones of which are preferred. -/
def inChoice : List Tree → Tree
  | [] => .empty
  | t :: ts => .choices t ts

theorem exists_plan_of_inChoice_cons (hts : ts ≠ [])
    (h : (inChoice (t :: ts)).plan m = .ok (p, m')) :
    ∃ a m₁ b, t.plan m = .ok (a, m₁) ∧ (inChoice ts).plan m₁ = .ok (b, m') ∧ p = a.or b := by
  obtain ⟨u, us, rfl⟩ := List.exists_cons_of_ne_nil hts
  exact exists_of_plan_choice h

theorem plan_inChoice_cons {a b : Plan} {m₁ : Mode} (hts : ts ≠ []) (ha : t.plan m = .ok (a, m₁))
    (hb : (inChoice ts).plan m₁ = .ok (b, m')) :
    (inChoice (t :: ts)).plan m = .ok (a.or b, m') := by
  obtain ⟨u, us, rfl⟩ := List.exists_cons_of_ne_nil hts
  change (t.plan m >>= _) = _
  rw [ha]
  change ((choices u us).plan m₁ >>= _) = _
  rw [show (choices u us).plan m₁ = _ from hb]
  rfl

theorem bare_inChoice (ts : List Tree) : (inChoice ts).bare = inChoice (ts.map bare) := by
  cases ts with
  | nil => rfl
  | cons t ts => exact bare_choices t ts

/-- Where the last alternative goes on with more than another tree, a match is one that goes on
behind a match of the alternatives with that tree for the last one, or it is a match of these. -/
theorem exists_plan_of_inChoice_concat {u more : Tree}
    (hlast : ∀ {m p m'}, u.plan m = .ok (p, m') → ∃ a m₁ b, t.plan m = .ok (a, m₁) ∧
      more.plan m₁ = .ok (b, m') ∧ p.Matches = (Plan.sequence a b).Matches)
    (h : (inChoice (ts ++ [u])).plan m = .ok (p, m')) :
    ∃ a m₁ b, (inChoice (ts ++ [t])).plan m = .ok (a, m₁) ∧ more.plan m₁ = .ok (b, m') ∧
      ∀ {c s c' s'}, p.Matches c s c' s' →
        (Plan.sequence a b).Matches c s c' s' ∨ a.Matches c s c' s' := by
  induction ts generalizing m p with
  | nil =>
    obtain ⟨a, m₁, b, ha, hb, hp⟩ := hlast h
    exact ⟨a, m₁, b, ha, hb, fun hmatches => .inl (hp ▸ hmatches)⟩
  | cons first ts ih =>
    obtain ⟨f, m₂, q, hf, hq, rfl⟩ := exists_plan_of_inChoice_cons (by simp) h
    obtain ⟨a, m₁, b, ha, hb, hmatches⟩ := ih hq
    refine ⟨f.or a, m₁, b, plan_inChoice_cons (by simp) hf ha, hb, fun hfound => ?_⟩
    rw [Plan.matches_or] at hfound
    simp only [Plan.Matches, Plan.matches_or]
    obtain hfirst | hothers := hfound
    · exact .inr (.inl hfirst)
    obtain ⟨c₁, s₁, hfound, hmore⟩ | hfound := hmatches hothers
    · exact .inl ⟨c₁, s₁, .inr hfound, hmore⟩
    · exact .inr (.inr hfound)

end Tree

/-- Alternatives that are held alone end in the tree of all alternatives. -/
theorem Held.plan_closeAlternatives {branches : List Tree} {frames : List Frame}
    (h : Held branches frames) (r : Run) (last : Place) (m : Mode) :
    (closeAlternatives r frames last).1.plan m =
      (Tree.inChoice (r.close last :: branches).reverse).plan m := by
  cases h with
  | none => rfl
  | @some first branch branches =>
    obtain ⟨t, ts, hall, heq⟩ := closeAlternatives_eq r first (branch :: branches) [] last
    rw [heq, hall, List.reverse_reverse]
    rfl

/-! ### Names that every match remembers -/

/-- Whether a tree cannot match without a group of that name. -/
def Tree.passes (name : List Char) : Tree → Bool
  | group _ kind body => kind == .named name || body.passes name
  | pair first second => first.passes name || second.passes name
  | sequence _ members => members.passes name
  | _ => false

/-- A match of such a tree's plan remembers a text under the name. -/
theorem Plan.Matches.exists_of_passes {t : Tree} {name : List Char} (ht : t.passes name = true)
    {m m' : Mode} {p : Plan} (hp : t.plan m = .ok (p, m')) {c c' : Cursor} {s s' : Captures}
    (h : p.Matches c s c' s') : ∃ x ∈ s', x.name = name := by
  induction t generalizing m m' p c s c' s' with
  | group span kind body ih =>
    obtain ⟨q, m₁, hbody, rfl⟩ := Tree.exists_of_plan_group hp
    rw [Tree.passes, Bool.or_eq_true, beq_iff_eq] at ht
    obtain rfl | ht := ht
    · obtain ⟨s₁, -, rfl⟩ := h
      exact ⟨_, List.mem_cons_self, rfl⟩
    · cases kind with
      | named other =>
        obtain ⟨s₁, hmatches, rfl⟩ := h
        obtain ⟨x, hx, hname⟩ := ih ht hbody hmatches
        exact ⟨x, List.mem_cons_of_mem _ hx, hname⟩
      | unnamed => exact ih ht hbody h
      | plain changes => exact ih ht hbody h
  | pair first second ih₁ ih₂ =>
    obtain ⟨a, m₁, b, hfirst, hsecond, rfl⟩ := Tree.exists_of_plan_pair hp
    obtain ⟨c₁, s₁, ha, hb⟩ := h
    rw [Tree.passes, Bool.or_eq_true] at ht
    obtain ht | ht := ht
    · obtain ⟨x, hx, hname⟩ := ih₁ ht hfirst ha
      exact ⟨x, hb.suffix.subset hx, hname⟩
    · exact ih₂ ht hsecond hb
  | sequence span members ih => exact ih ht hp h
  | _ => contradiction

end Pattern

end Timekeeper
