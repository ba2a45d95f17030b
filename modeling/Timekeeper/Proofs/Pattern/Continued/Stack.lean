import Timekeeper.Proofs.Pattern.Continued.Basic

/-!
# What is open with more around it

The reader of patterns keeps what is still open on a stack. When a fragment is read behind a part
of a pattern, its stack lies on what that part left open (`Below`): members are **beneath** the
sequence that is read first, which no group of the fragment contains, and under the first of its
alternatives once a bar has come, and below that are the alternatives of the part that have ended
(`Beneath`). Everything above agrees, spans apart.
-/

namespace Timekeeper

namespace Pattern

/-- Trees that are the same, places apart. -/
abbrev SameTrees (ts us : List Tree) : Prop := us.map Tree.bare = ts.map Tree.bare

/-- Without its spans, a sequence ends in the tree that its members without spans make. -/
theorem Run.bare_close (r : Run) (last : Place) :
    (r.close last).bare = Run.close ⟨.start, r.members.map Tree.bare⟩ .start := by
  have hreverse : (r.members.map Tree.bare).reverse = r.members.reverse.map Tree.bare :=
    List.map_reverse.symm
  rw [close, close, hreverse]
  match r.members.reverse with
  | [] => rfl
  | [member] => rfl
  | first :: second :: rest =>
    simp only [List.map_cons, Tree.bare, Tree.bare_chain]
    rfl

namespace SameTrees

variable {r r' : Run}

theorem bare_close (h : SameTrees r.members r'.members) (last last' : Place) :
    (r'.close last').bare = (r.close last).bare := by
  rw [Run.bare_close, Run.bare_close, h]

theorem cons_close (h : SameTrees r.members r'.members) {branches branches' : List Tree}
    (hbranches : SameTrees branches branches') (last last' : Place) :
    SameTrees (r.close last :: branches) (r'.close last' :: branches') := by
  rw [SameTrees, List.map_cons, List.map_cons, h.bare_close last last', hbranches]

end SameTrees

/-- What a bar makes of a sequence and the stack. -/
def Run.nextBranch (r : Run) (frames : List Frame) (place next : Place) : Run × List Frame :=
  match frames with
  | .alternatives first branches :: others =>
    (.startingAt next, .alternatives first (r.close place :: branches) :: others)
  | _ => (.startingAt next, .alternatives r.first [r.close place] :: frames)

theorem run_nextAlternative (r : Run) (frames : List Frame) (s : Source) :
    (nextAlternative r frames).run s =
      .ok (r.nextBranch frames s.place s.advance.place, s.advance) := by
  match frames with
  | [] => rfl
  | .group _ _ _ _ :: _ => rfl
  | .alternatives _ _ :: _ => rfl

/-- Alternatives that end make one tree, and leave what is below them. -/
theorem closeAlternatives_eq (r : Run) (first : Place) (branches : List Tree)
    (frames : List Frame) (last : Place) : ∃ branch rest,
      r.close last :: branches = (branch :: rest).reverse ∧
      closeAlternatives r (.alternatives first branches :: frames) last =
        (.alternatives ⟨first, last⟩ (Tree.choices branch rest), frames) := by
  obtain ⟨branch, rest, hreverse⟩ := List.exists_cons_of_ne_nil
    (List.reverse_ne_nil_iff.mpr (List.cons_ne_nil (r.close last) branches))
  refine ⟨branch, rest, ?_, ?_⟩
  · rw [← hreverse, List.reverse_reverse]
  · simp only [closeAlternatives, hreverse]

theorem SameTrees.bare_closeAlternatives {r r' : Run} (h : SameTrees r.members r'.members)
    {branches branches' : List Tree} (hbranches : SameTrees branches branches')
    (first first' : Place) (frames frames' : List Frame) (last last' : Place) :
    (closeAlternatives r' (.alternatives first' branches' :: frames') last').1.bare =
      (closeAlternatives r (.alternatives first branches :: frames) last).1.bare := by
  obtain ⟨branch, rest, hall, heq⟩ := closeAlternatives_eq r first branches frames last
  obtain ⟨branch', rest', hall', heq'⟩ := closeAlternatives_eq r' first' branches' frames' last'
  have hsame := h.cons_close hbranches last last'
  rw [hall, hall', SameTrees, List.map_reverse, List.map_reverse, List.reverse_inj] at hsame
  obtain ⟨hbranch, hrest⟩ := List.cons.inj hsame
  rw [heq, heq', Tree.bare, Tree.bare, Tree.bare_choices, Tree.bare_choices, hbranch, hrest]

/-- What is open in front of a fragment: the members of the sequence that it begins in, and the
alternatives that have ended before this sequence, the last one first. -/
structure Below where
  members : List Tree
  branches : List Tree

/-- Alternatives are **held** by a stack with nothing else on it. -/
inductive Held : List Tree → List Frame → Prop
  | none : Held [] []
  | some {first : Place} {branch : Tree} {branches : List Tree} :
    Held (branch :: branches) [.alternatives first (branch :: branches)]

theorem Held.eq_nil {frames : List Frame} (h : Held [] frames) : frames = [] := by
  cases h
  rfl

theorem Held.of_ne_nil {branches : List Tree} (h : branches ≠ []) (first : Place) :
    Held branches [.alternatives first branches] := by
  obtain ⟨branch, others, rfl⟩ := List.exists_cons_of_ne_nil h
  exact .some

/-- A first branch that has ended, and the branch that it is on top of some members. -/
def EndedOn (members : List Tree) (branch branch' : Tree) : Prop :=
  ∃ (r r' : Run) (last last' : Place), branch = r.close last ∧ branch' = r'.close last' ∧
    SameTrees (r.members ++ members) r'.members

/-- A tree has ended on nothing as it is. -/
theorem EndedOn.self (t : Tree) : EndedOn [] t t :=
  ⟨⟨.start, [t]⟩, ⟨.start, [t]⟩, .start, .start, rfl, rfl, rfl⟩

/-- What is open in a fragment, and what is open there with something below it. -/
inductive Beneath (base : Below) : Run → List Frame → Run → List Frame → Prop
  /-- The sequence that is read first. -/
  | sequence {r r' : Run} {frames' : List Frame}
    (members : SameTrees (r.members ++ base.members) r'.members)
    (held : Held base.branches frames') : Beneath base r [] r' frames'
  /-- A later one of the alternatives that are read first. -/
  | branch {r r' : Run} {first first' : Place} {branches branches' : List Tree}
    {branch branch' : Tree} (members : SameTrees r.members r'.members)
    (later : SameTrees branches branches') (earliest : EndedOn base.members branch branch') :
    Beneath base r [.alternatives first (branches ++ [branch])]
      r' [.alternatives first' (branches' ++ branch' :: base.branches)]
  /-- A sequence in a group. -/
  | inGroup {r r' before before' : Run} {frames frames' : List Frame} {opened opened' : Span}
    {kind : GroupKind} {verbose : Bool} (members : SameTrees r.members r'.members)
    (outer : Beneath base before frames before' frames') :
    Beneath base r (.group before opened kind verbose :: frames)
      r' (.group before' opened' kind verbose :: frames')
  /-- One of several alternatives in a group. -/
  | branchInGroup {r r' before before' : Run} {frames frames' : List Frame}
    {first first' : Place} {branches branches' : List Tree} {opened opened' : Span}
    {kind : GroupKind} {verbose : Bool} (members : SameTrees r.members r'.members)
    (others : SameTrees branches branches') (outer : Beneath base before frames before' frames') :
    Beneath base r (.alternatives first branches :: .group before opened kind verbose :: frames)
      r' (.alternatives first' branches' :: .group before' opened' kind verbose :: frames')

namespace Beneath

variable {base : Below} {r r' : Run} {frames frames' : List Frame}

/-- The members of the innermost sequence agree down to some members, and the rest of the stack
does not depend on them. -/
theorem exists_members (h : Beneath base r frames r' frames') :
    ∃ ts, SameTrees (r.members ++ ts) r'.members ∧
      ∀ q q' : Run, SameTrees (q.members ++ ts) q'.members → Beneath base q frames q' frames' := by
  cases h with
  | sequence members held => exact ⟨base.members, members, fun _ _ h => .sequence h held⟩
  | branch members later earliest =>
    exact ⟨[], by simpa using members, fun _ _ h => .branch (by simpa using h) later earliest⟩
  | inGroup members outer =>
    exact ⟨[], by simpa using members, fun _ _ h => .inGroup (by simpa using h) outer⟩
  | branchInGroup members others outer =>
    exact ⟨[], by simpa using members,
      fun _ _ h => .branchInGroup (by simpa using h) others outer⟩

/-- With nothing else open, the members lie on those beneath, and what is below is as it was. -/
theorem of_nil (h : Beneath base r [] r' frames') :
    Held base.branches frames' ∧ SameTrees (r.members ++ base.members) r'.members := by
  cases h with
  | sequence members held => exact ⟨held, members⟩

/-- What a stack holds alone lies on nothing as it is. -/
theorem of_held {branches : List Tree} (h : Held branches frames) (r : Run) :
    Beneath ⟨[], []⟩ r frames r frames := by
  cases h with
  | none => exact .sequence (by simp) .none
  | @some first branch branches =>
    rw [← List.dropLast_append_getLast (List.cons_ne_nil branch branches)]
    exact .branch rfl rfl (.self _)

/-- Adding a member. -/
theorem push (h : Beneath base r frames r' frames') {t t' : Tree} (ht : t'.bare = t.bare) :
    Beneath base (r.push t) frames (r'.push t') frames' := by
  obtain ⟨ts, hmembers, hkeep⟩ := h.exists_members
  refine hkeep _ _ ?_
  simp only [Run.push, SameTrees, List.cons_append, List.map_cons, ht, hmembers]

/-- Taking the last member. -/
theorem pop {first : Place} {t : Tree} {others : List Tree}
    (h : Beneath base ⟨first, t :: others⟩ frames r' frames') :
    ∃ t' others', r'.members = t' :: others' ∧ t'.bare = t.bare ∧
      Beneath base ⟨first, others⟩ frames ⟨r'.first, others'⟩ frames' := by
  obtain ⟨ts, hmembers, hkeep⟩ := h.exists_members
  obtain ⟨t', others', hcons, ht, hothers⟩ := List.map_eq_cons_iff.mp hmembers
  exact ⟨t', others', hcons, ht, hkeep _ _ hothers⟩

/-- A bar ends the sequence and begins the next one. -/
theorem nextBranch (h : Beneath base r frames r' frames') (place place' next next' : Place) :
    Beneath base (r.nextBranch frames place next).1 (r.nextBranch frames place next).2
      (r'.nextBranch frames' place' next').1 (r'.nextBranch frames' place' next').2 := by
  have hnew : SameTrees (Run.startingAt next).members (Run.startingAt next').members := rfl
  have hnone : SameTrees [] [] := rfl
  cases h with
  | sequence members held =>
    have hended : EndedOn base.members (r.close place) (r'.close place') :=
      ⟨r, r', place, place', rfl, rfl, members⟩
    obtain ⟨ms, branches⟩ := base
    cases held with
    | none => exact .branch hnew hnone hended
    | some => exact .branch hnew hnone hended
  | branch members later earliest =>
    exact .branch hnew (members.cons_close later place place') earliest
  | inGroup members outer =>
    exact .branchInGroup hnew (members.cons_close hnone place place') outer
  | branchInGroup members others outer =>
    exact .branchInGroup hnew (members.cons_close others place place') outer

/-- A closing parenthesis ends the innermost group, if there is one. -/
theorem closed (h : Beneath base r frames r' frames') (place place' : Place) {before : Run}
    {opened : Span} {kind : GroupKind} {verbose : Bool} {others : List Frame}
    (hclose : (closeAlternatives r frames place).2 = .group before opened kind verbose :: others) :
    ∃ before' opened' others',
      (closeAlternatives r' frames' place').2 = .group before' opened' kind verbose :: others' ∧
      (closeAlternatives r' frames' place').1.bare = (closeAlternatives r frames place).1.bare ∧
      Beneath base before others before' others' := by
  cases h with
  | sequence members held => contradiction
  | branch members later earliest =>
    obtain ⟨branch, rest, -, heq⟩ := closeAlternatives_eq r _ _ [] place
    rw [heq] at hclose
    contradiction
  | inGroup members outer =>
    obtain ⟨⟨rfl, rfl, rfl, rfl⟩, rfl⟩ : (_ ∧ _ ∧ _ ∧ _) ∧ _ := by
      simpa [closeAlternatives] using hclose
    exact ⟨_, _, _, rfl, members.bare_close place place', outer⟩
  | @branchInGroup _ _ before₁ before₁' frames₁ frames₁' first first' branches branches' opened₁
      opened₁' kind₁ verbose₁ members others outer =>
    let below : List Frame := .group before₁ opened₁ kind₁ verbose₁ :: frames₁
    let below' : List Frame := .group before₁' opened₁' kind₁ verbose₁ :: frames₁'
    obtain ⟨branch, rest, -, heq⟩ := closeAlternatives_eq r first branches below place
    obtain ⟨branch', rest', -, heq'⟩ := closeAlternatives_eq r' first' branches' below' place'
    have hbare := members.bare_closeAlternatives others first first' below below' place place'
    rw [heq] at hclose
    obtain ⟨⟨rfl, rfl, rfl, rfl⟩, rfl⟩ : (_ ∧ _ ∧ _ ∧ _) ∧ _ := by simpa [below] using hclose
    exact ⟨_, _, _, congrArg Prod.snd heq', hbare, outer⟩

end Beneath

end Pattern

end Timekeeper
