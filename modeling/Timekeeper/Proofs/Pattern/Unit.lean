import Timekeeper.Proofs.Pattern.Fragment
import Timekeeper.Proofs.Pattern.Measured
import Timekeeper.Proofs.Readout.Measurement
import Timekeeper.Proofs.Unicode.LetterCase

/-!
# The group of the unit

The last group of the tail matches a spelling of a unit and remembers it. A marker may leave flags
behind, so the tail is read in any mode; but whatever the mode, a character that is matched folds as
the one in the spelling does, and so the text that a match of the tail remembers as its unit is one
(`exists_isUnit_of_matches_tail`). In the mode of a marker without flags of its own nothing else
counts than the fold, and the group matches all units (`matchesWhole_unitPlan_iff`).
-/

namespace Timekeeper

namespace Pattern

open Measurement

variable {m m' : Mode} {c c' : Cursor} {s s' : Captures} {d e : Char} {x t rest : List Char}

/-! ### Literals in any mode -/

/-- Whatever the mode, what counts as a character folds as it does. -/
theorem Mode.fold_eq_of_single (h : m.single d e = true) : Unicode.fold e = Unicode.fold d := by
  rw [single] at h
  split at h
  · rw [beq_iff_eq.mp h]
  · split at h
    · exact beq_iff_eq.mp h
    · have hlower : e.toLower = d.toLower := beq_iff_eq.mp h
      rw [← Unicode.fold_toLower e, hlower, Unicode.fold_toLower]

/-- A text **spells** another one in a mode when its characters count as those of the other. -/
def Mode.Spells (m : Mode) (x t : List Char) : Prop :=
  List.Forall₂ (fun d e => m.single d e = true) x t

private theorem forall₂_fold_iff :
    List.Forall₂ (fun d e => Unicode.fold e = Unicode.fold d) x t ↔
      t.map Unicode.fold = x.map Unicode.fold := by
  have heq : (t.map Unicode.fold = x.map Unicode.fold) =
      List.Forall₂ (· = ·) (t.map Unicode.fold) (x.map Unicode.fold) :=
    (congrFun (congrFun List.forall₂_eq_eq_eq _) _).symm
  rw [heq, List.forall₂_map_left_iff, List.forall₂_map_right_iff]
  exact ⟨List.Forall₂.flip, List.Forall₂.flip⟩

theorem Mode.Spells.map_fold_eq (h : m.Spells x t) : t.map Unicode.fold = x.map Unicode.fold :=
  forall₂_fold_iff.mp (h.imp fun _ _ => fold_eq_of_single)

/-- In the mode of a marker nothing but the fold counts. -/
theorem Mode.marker_spells_iff :
    marker.Spells x t ↔ t.map Unicode.fold = x.map Unicode.fold := by
  rw [← forall₂_fold_iff]
  have hsingle : ∀ d e, marker.single d e = true ↔ Unicode.fold e = Unicode.fold d :=
    fun _ _ => beq_iff_eq
  exact ⟨fun h => h.imp fun _ _ => (hsingle _ _).mp, fun h => h.imp fun _ _ => (hsingle _ _).mpr⟩

/-- The plan of a spelling, given its first character and the others. -/
def spelled (m : Mode) (d : Char) : List Char → Plan
  | [] => .one (m.single d)
  | e :: x => .sequence (.one (m.single d)) (spelled m e x)

theorem exists_of_matches_spelled (h : (spelled m d x).Matches c s c' s') :
    s' = s ∧ ∃ t, m.Spells (d :: x) t ∧ c.rest = t ++ c'.rest := by
  induction x generalizing d c s with
  | nil =>
    obtain ⟨rfl, e, hnext, hsingle⟩ := h
    exact ⟨rfl, [e], .cons hsingle .nil, Cursor.rest_eq_of_next? hnext⟩
  | cons f x ih =>
    obtain ⟨c₁, s₁, ⟨rfl, e, hnext, hsingle⟩, hrest⟩ := h
    obtain ⟨rfl, t, hspells, heq⟩ := ih hrest
    refine ⟨rfl, e :: t, .cons hsingle hspells, ?_⟩
    rw [Cursor.rest_eq_of_next? hnext, heq, List.cons_append]

theorem matches_spelled (h : m.Spells (d :: x) t) (hrest : c.rest = t ++ rest) (s : Captures) :
    ∃ c', (spelled m d x).Matches c s c' s ∧ c'.rest = rest := by
  induction x generalizing d c t with
  | nil =>
    obtain ⟨e, t, hsingle, hnil, rfl⟩ := List.forall₂_cons_left_iff.mp h
    obtain rfl := List.forall₂_nil_left_iff.mp hnil
    exact ⟨c.advance 1, ⟨rfl, e, Cursor.next?_eq_some hrest, hsingle⟩,
      Cursor.rest_advance_one hrest⟩
  | cons f x ih =>
    obtain ⟨e, t, hsingle, hspells, rfl⟩ := List.forall₂_cons_left_iff.mp h
    obtain ⟨c', hmatches, hc'⟩ := ih hspells (Cursor.rest_advance_one hrest)
    exact ⟨c', ⟨c.advance 1, s, ⟨rfl, e, Cursor.next?_eq_some hrest, hsingle⟩, hmatches⟩, hc'⟩

/-! ### The group -/

/-- The plan of the group in a mode. -/
def unitPlan (m : Mode) : Plan :=
  .capture Grammar.unitName.toList <|
    .choice (spelled m 'm' ['s']) <| .choice (spelled m 'µ' ['s']) <|
    .choice (spelled m 'μ' ['s']) <| .choice (spelled m 'u' ['s']) <|
    .choice (spelled m 'n' ['s']) (spelled m 's' [])

theorem matches_unitPlan_iff : (unitPlan m).Matches c s c' s' ↔
    ∃ d x s₁, d :: x ∈ spellings ∧ (spelled m d x).Matches c s c' s₁ ∧
      s' = ⟨Grammar.unitName.toList, c.rest, c.left - c'.left⟩ :: s₁ := by
  constructor
  · rintro ⟨s₁, h | h | h | h | h | h, rfl⟩
    all_goals exact ⟨_, _, s₁, by decide, h, rfl⟩
  · rintro ⟨d, x, s₁, hmem, h, rfl⟩
    refine ⟨s₁, ?_, rfl⟩
    simp only [spellings, List.mem_cons, List.cons.injEq, List.not_mem_nil, or_false] at hmem
    obtain ⟨rfl, rfl⟩ | ⟨rfl, rfl⟩ | ⟨rfl, rfl⟩ | ⟨rfl, rfl⟩ | ⟨rfl, rfl⟩ | ⟨rfl, rfl⟩ := hmem
    · exact .inl h
    · exact .inr (.inl h)
    · exact .inr (.inr (.inl h))
    · exact .inr (.inr (.inr (.inl h)))
    · exact .inr (.inr (.inr (.inr (.inl h))))
    · exact .inr (.inr (.inr (.inr (.inr h))))

/-- A match of the group takes a unit and remembers it. -/
theorem exists_of_matches_unitPlan (h : (unitPlan m).Matches c s c' s') :
    ∃ unit, IsUnit unit ∧ c.rest = unit ++ c'.rest ∧
      s' = ⟨Grammar.unitName.toList, c.rest, unit.length⟩ :: s := by
  obtain ⟨d, x, s₁, hmem, hmatches, rfl⟩ := matches_unitPlan_iff.mp h
  obtain ⟨rfl, unit, hspells, hrest⟩ := exists_of_matches_spelled hmatches
  refine ⟨unit, ⟨d :: x, hmem, hspells.map_fold_eq⟩, hrest, ?_⟩
  rw [c.left_eq, c'.left_eq, hrest, List.length_append, Nat.add_sub_cancel]

/-- A plan **matches the whole** of a text when a match from its beginning leaves nothing of it. -/
def Plan.MatchesWhole (p : Plan) (text : List Char) : Prop :=
  ∃ c' s', p.Matches (.ofText text) [] c' s' ∧ c'.rest = []

/-- In the mode of a marker the group matches units, and all of them. -/
theorem matchesWhole_unitPlan_iff {u : List Char} :
    (unitPlan .marker).MatchesWhole u ↔ IsUnit u := by
  constructor
  · rintro ⟨c', s', hmatches, hc'⟩
    obtain ⟨unit, hunit, hrest, -⟩ := exists_of_matches_unitPlan hmatches
    rw [hc', List.append_nil] at hrest
    have heq : u = unit := hrest
    rwa [heq]
  · rintro ⟨x, hx, hfold⟩
    have hne : x ≠ [] := by
      rintro rfl
      exact absurd hx (by decide)
    obtain ⟨d, x, rfl⟩ := List.exists_cons_of_ne_nil hne
    have hrest : (Cursor.ofText u).rest = u ++ [] := (List.append_nil u).symm
    obtain ⟨c', hmatches, hc'⟩ := matches_spelled (Mode.marker_spells_iff.mpr hfold) hrest []
    exact ⟨c', _, matches_unitPlan_iff.mpr ⟨d, x, [], hx, hmatches, rfl⟩, hc'⟩

/-! ### The group as it is written -/

/-- The tree of a spelling. -/
private def spellingTree (d : Char) (x : List Char) : Tree :=
  let literal (d : Char) : Tree := .literal ⟨d, .nowhere, false⟩
  match x with
  | [] => literal d
  | x => .sequence .nowhere (Tree.chain (literal d) (x.map literal))

/-- The tree of the group, without its spans. -/
def unitTree : Tree :=
  .group .nowhere (.named Grammar.unitName.toList) <| .alternatives .nowhere <|
    Tree.choices (spellingTree 'm' ['s']) [spellingTree 'µ' ['s'], spellingTree 'μ' ['s'],
      spellingTree 'u' ['s'], spellingTree 'n' ['s'], spellingTree 's' []]

theorem plan_unitTree (m : Mode) : unitTree.plan m = .ok (unitPlan m, m) := by
  obtain ⟨caseInsensitive, multiLine, dotAll, swapGreed, unicode, carriageReturn⟩ := m
  cases unicode <;> rfl

/-- The tree of the group behind the flags of every marker. -/
private def flaggedTree : Tree := .sequence .nowhere (.pair flagsTree unitTree)

private theorem flaggedTree_spec : (Tree.read (Grammar.flags.toList ++ unitText)).toOption.any
    (fun tree => decide (tree.bare = flaggedTree.bare) && decide (tree.weight ≤ sizeLimit)) =
      true := by
  decide +kernel

/-- Behind the flags of every marker, the group comes to its plan in the mode of a marker. -/
theorem compile_unit :
    compile (Grammar.flags.toList ++ unitText) = .ok (.sequence .empty (unitPlan .marker)) := by
  obtain ⟨tree, hread, hspec⟩ := (Option.any_eq_true ..).mp flaggedTree_spec
  rw [Bool.and_eq_true, decide_eq_true_eq, decide_eq_true_eq] at hspec
  obtain ⟨hbare, hweight⟩ := hspec
  have hplan : flaggedTree.plan .initial = .ok (.sequence .empty (unitPlan .marker), .marker) := rfl
  exact compile_eq_ok_iff.mpr ⟨tree, .marker, eq_ok_iff_toOption.mpr hread,
    Tree.plan_eq_ok_of_bare_eq hbare.symm hplan, hweight⟩

theorem matchesWhole_compiled_iff {plan : Plan} {u : List Char}
    (h : compile (Grammar.flags.toList ++ unitText) = .ok plan) :
    plan.MatchesWhole u ↔ IsUnit u := by
  obtain rfl := Except.ok.inj (h.symm.trans compile_unit)
  rw [← matchesWhole_unitPlan_iff, Plan.MatchesWhole, Plan.MatchesWhole,
    Plan.matches_empty_sequence]

/-! ### Units that are remembered -/

namespace Tree

/-- Whether a tree is a condition on a place. -/
def isAnchor : Tree → Bool
  | anchor _ _ => true
  | _ => false

/-- Whether the group of the unit is the last that a tree comes to, a condition apart. -/
def endsInUnit : Tree → Bool
  | group span kind body => decide ((group span kind body).bare = unitTree.bare)
  | pair first second => second.endsInUnit || (first.endsInUnit && second.isAnchor)
  | sequence _ members => members.endsInUnit
  | _ => false

/-- Whether a tree **reserves** the name of the unit: no group has it but that of the tail. -/
def reservesUnit : Tree → Bool
  | group span kind body =>
    if kind = .named Grammar.unitName.toList then
      decide ((group span kind body).bare = unitTree.bare)
    else body.reservesUnit
  | repetition _ _ _ _ body => body.reservesUnit
  | pair first second => first.reservesUnit && second.reservesUnit
  | sequence _ members => members.reservesUnit
  | choice first second => first.reservesUnit && second.reservesUnit
  | alternatives _ members => members.reservesUnit
  | _ => true

end Tree

/-- The plan of a group that is that of the unit. -/
private theorem eq_unitPlan {t : Tree} (hbare : t.bare = unitTree.bare) {p : Plan}
    (hp : t.plan m = .ok (p, m')) : p = unitPlan m := by
  have hplan := Tree.plan_eq_ok_of_bare_eq hbare hp
  rw [plan_unitTree] at hplan
  exact (Prod.mk.inj (Except.ok.inj hplan)).1.symm

/-- Where the group of the unit comes last, the unit that is remembered is one. -/
theorem Plan.Matches.exists_isUnit {t : Tree} (ht : t.endsInUnit = true) {p : Plan}
    (hp : t.plan m = .ok (p, m')) (h : p.Matches c s c' s') :
    ∃ unit, s'.text? Grammar.unitName.toList = some unit ∧ IsUnit unit := by
  induction t generalizing m m' p c s c' s' with
  | group span kind body =>
    obtain rfl := eq_unitPlan (of_decide_eq_true ht) hp
    obtain ⟨unit, hunit, hrest, rfl⟩ := exists_of_matches_unitPlan h
    refine ⟨_, Captures.text?_cons rfl, ?_⟩
    rwa [hrest, List.take_left]
  | pair first second ih₁ ih₂ =>
    obtain ⟨a, m₁, b, hfirst, hsecond, rfl⟩ := Tree.exists_of_plan_pair hp
    obtain ⟨c₁, s₁, ha, hb⟩ := h
    rw [Tree.endsInUnit, Bool.or_eq_true, Bool.and_eq_true] at ht
    obtain ht | ⟨ht, hanchor⟩ := ht
    · exact ih₂ ht hsecond hb
    · cases second with
      | anchor kind span =>
        -- a condition remembers nothing, so the unit is still the last that was remembered
        obtain ⟨rfl, rfl⟩ := Prod.mk.inj (Except.ok.inj hsecond)
        obtain ⟨-, rfl, -⟩ := hb
        exact ih₁ ht hfirst ha
      | _ => contradiction
  | sequence span members ih => exact ih ht hp h
  | _ => contradiction

private theorem endsInUnit_tail :
    (Tree.read Grammar.tail.toList).toOption.any Tree.endsInUnit = true := by
  decide +kernel

/-- In whatever mode the tail is read, what a match of it remembers as its unit is one. -/
theorem exists_isUnit_of_matches_tail {p : Plan} (hp : fragment m Grammar.tail.toList = .ok (p, m'))
    (h : p.Matches c s c' s') :
    ∃ unit, s'.text? Grammar.unitName.toList = some unit ∧ IsUnit unit := by
  obtain ⟨tree, hread, hends⟩ := (Option.any_eq_true ..).mp endsInUnit_tail
  rw [fragment, eq_ok_iff_toOption.mpr hread] at hp
  exact h.exists_isUnit hends hp

/-- Some captures **remember units** when whatever they have under the name of the unit is one. -/
def Captures.RemembersUnits (s : Captures) : Prop :=
  ∀ x ∈ s, x.name = Grammar.unitName.toList → IsUnit (x.source.take x.length)

theorem Captures.RemembersUnits.cons (hs : RemembersUnits s) {x : Capture}
    (hx : x.name = Grammar.unitName.toList → IsUnit (x.source.take x.length)) :
    RemembersUnits (x :: s) :=
  List.forall_mem_cons.mpr ⟨hx, hs⟩

theorem Captures.RemembersUnits.isUnit (hs : RemembersUnits s) {unit : List Char}
    (h : s.text? Grammar.unitName.toList = some unit) : IsUnit unit := by
  obtain ⟨x, hx, rfl⟩ := Option.map_eq_some_iff.mp h
  have hname : x.name = Grammar.unitName.toList := by simpa using List.find?_some hx
  exact hs x (List.mem_of_find?_eq_some hx) hname

private theorem remembersUnits_times {w : Way} {n : Nat}
    (hw : ∀ c s c' s', w c s c' s' → s.RemembersUnits → s'.RemembersUnits)
    (h : w.times n c s c' s') (hs : s.RemembersUnits) : s'.RemembersUnits := by
  induction n generalizing c s with
  | zero => exact h.2 ▸ hs
  | succ n ih =>
    obtain ⟨c₁, s₁, hfirst, hrest⟩ := h
    exact ih hrest (hw c s c₁ s₁ hfirst hs)

/-- A test of a single character remembers nothing. -/
private theorem eq_of_matches_one {α : Type} {x : Except Blame α} {f : α → Char → Bool} {p : Plan}
    (hp : (x >>= fun a => pure (.one (f a), m)) = Except.ok (p, m')) (h : p.Matches c s c' s') :
    s' = s := by
  obtain ⟨a, -, hp⟩ := exists_of_bind_eq_ok hp
  obtain ⟨rfl, rfl⟩ := Prod.mk.inj (Except.ok.inj hp)
  exact h.1

/-- Where the name of the unit is reserved, matches remember units only. -/
theorem Plan.Matches.remembersUnits {t : Tree} (ht : t.reservesUnit = true) {p : Plan}
    (hp : t.plan m = .ok (p, m')) (h : p.Matches c s c' s') (hs : s.RemembersUnits) :
    s'.RemembersUnits := by
  induction t generalizing m m' p c s c' s' with
  | empty =>
    obtain ⟨rfl, rfl⟩ := Prod.mk.inj (Except.ok.inj hp)
    exact h.2 ▸ hs
  | flags changes =>
    obtain ⟨rfl, rfl⟩ := Prod.mk.inj (Except.ok.inj hp)
    exact h.2 ▸ hs
  | literal l => exact eq_of_matches_one hp h ▸ hs
  | dot span => exact eq_of_matches_one hp h ▸ hs
  | anchor kind span =>
    obtain ⟨rfl, rfl⟩ := Prod.mk.inj (Except.ok.inj hp)
    exact h.2.1 ▸ hs
  | property query negated span => exact eq_of_matches_one hp h ▸ hs
  | short kind negated span => exact eq_of_matches_one hp h ▸ hs
  | bracketed span negated body =>
    obtain ⟨test, -, hp⟩ := exists_of_bind_eq_ok hp
    exact eq_of_matches_one hp h ▸ hs
  | group span kind body ih =>
    rw [Tree.reservesUnit] at ht
    split at ht
    · obtain rfl := eq_unitPlan (of_decide_eq_true ht) hp
      obtain ⟨unit, hunit, hrest, rfl⟩ := exists_of_matches_unitPlan h
      refine hs.cons fun _ => ?_
      rwa [hrest, List.take_left]
    · rename_i hkind
      obtain ⟨q, m₁, hbody, rfl⟩ := Tree.exists_of_plan_group hp
      cases kind with
      | named name =>
        obtain ⟨s₁, hmatches, rfl⟩ := h
        exact (ih ht hbody hmatches hs).cons fun hname => absurd (congrArg _ hname) hkind
      | unnamed => exact ih ht hbody h hs
      | plain changes => exact ih ht hbody h hs
  | repetition span least most greedy body ih =>
    obtain ⟨⟨q, m₁⟩, hbody, hq⟩ := exists_of_bind_eq_ok hp
    obtain ⟨rfl, rfl⟩ := Prod.mk.inj (Except.ok.inj hq)
    obtain ⟨n, -, -, htimes⟩ := h
    exact remembersUnits_times (fun _ _ _ _ hround => ih ht hbody hround) htimes hs
  | pair first second ih₁ ih₂ =>
    obtain ⟨a, m₁, b, hfirst, hsecond, rfl⟩ := Tree.exists_of_plan_pair hp
    obtain ⟨c₁, s₁, ha, hb⟩ := h
    rw [Tree.reservesUnit, Bool.and_eq_true] at ht
    exact ih₂ ht.2 hsecond hb (ih₁ ht.1 hfirst ha hs)
  | sequence span members ih => exact ih ht hp h hs
  | choice first second ih₁ ih₂ =>
    obtain ⟨a, m₁, b, hfirst, hsecond, rfl⟩ := Tree.exists_of_plan_choice hp
    rw [Tree.reservesUnit, Bool.and_eq_true] at ht
    rw [Plan.matches_or] at h
    obtain ha | hb := h
    · exact ih₁ ht.1 hfirst ha hs
    · exact ih₂ ht.2 hsecond hb hs
  | alternatives span members ih => exact ih ht hp h hs

end Pattern

end Timekeeper
