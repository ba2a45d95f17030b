import Timekeeper.Proofs.Grammar.Violation
import Timekeeper.Proofs.Pattern.Fragment
import Timekeeper.Proofs.Pattern.Measured

/-!
# Markers in front of the tail

A pattern is put together as text: flags, a marker and the tail. A table is accepted if each whole
is a pattern, but that does not make a marker a piece of it. Of alternatives that are in no group,
only the last one has the tail behind it, and a comment that is open at the end of a marker goes on
over the tail. A marker is **self-contained** if it is a pattern itself and neither of these.

Whatever else such a marker holds, flags and names included, the reader makes one sequence of the
flags, of the members of the marker and of those of the tail (`SelfContained.exists_fragments`). So
what is found is a match of the marker and then one of the tail, and a number and a unit are
remembered (`matches_marker_then_tail`). Of a marker with alternatives a match may be found that
remembers neither (`matches_without_tail_of_alternatives`), but it is one of the marker alone
(`Finished.exists_fragments`).
-/

namespace Timekeeper

namespace Grammar

open Pattern

/-- A marker that stands on its own in front of the tail: it is a pattern, it is not made of several
alternatives, and no comment is open at its end, so that a closing parenthesis behind it is one too
many. -/
structure SelfContained (marker : String) : Prop where
  compiles : ∃ plan, Pattern.compile marker.toList = .ok plan
  one_branch : ∀ tree, Tree.read marker.toList = .ok tree → tree.isAlternatives = false
  ends : ∀ plan, Pattern.compile (marker.toList ++ [')']) ≠ .ok plan

theorem selfContained_iff {marker : String} : SelfContained marker ↔
    (Pattern.compile marker.toList).toOption.isSome = true ∧
      (Tree.read marker.toList).toOption.all (fun tree => !tree.isAlternatives) = true ∧
      (Pattern.compile (marker.toList ++ [')'])).toOption.isSome = false := by
  rw [← exists_eq_ok_iff_toOption, Option.all_eq_true, Bool.eq_false_iff, ne_eq,
    ← exists_eq_ok_iff_toOption]
  constructor
  · rintro ⟨hcompiles, hone, hends⟩
    refine ⟨hcompiles, fun tree htree => ?_, fun ⟨plan, hplan⟩ => hends plan hplan⟩
    simpa using hone tree (eq_ok_iff_toOption.mpr htree)
  · rintro ⟨hcompiles, hone, hends⟩
    refine ⟨hcompiles, fun tree htree => ?_, fun plan hplan => hends ⟨plan, hplan⟩⟩
    simpa using hone tree (eq_ok_iff_toOption.mp htree)

instance (marker : String) : Decidable (SelfContained marker) :=
  decidable_of_iff _ selfContained_iff.symm

/-- A marker that is a pattern and has no comment open at its end. It may be made of several
alternatives, of which the last one has the tail behind it. -/
structure Finished (marker : String) : Prop where
  compiles : ∃ plan, Pattern.compile marker.toList = .ok plan
  ends : ∀ plan, Pattern.compile (marker.toList ++ [')']) ≠ .ok plan

theorem SelfContained.finished {marker : String} (h : SelfContained marker) : Finished marker :=
  ⟨h.compiles, h.ends⟩

theorem finished_iff {marker : String} : Finished marker ↔
    (Pattern.compile marker.toList).toOption.isSome = true ∧
      (Pattern.compile (marker.toList ++ [')'])).toOption.isSome = false := by
  rw [← exists_eq_ok_iff_toOption, Bool.eq_false_iff, ne_eq, ← exists_eq_ok_iff_toOption,
    not_exists]
  exact ⟨fun h => ⟨h.compiles, h.ends⟩, fun h => ⟨h.1, h.2⟩⟩

instance (marker : String) : Decidable (Finished marker) :=
  decidable_of_iff _ finished_iff.symm

/-! ### The tail -/

theorem detached_tail : Detached tail.toList where
  head c hc := by
    obtain rfl : c = '\\' := by simpa [tail] using hc.symm
    exact .inl rfl
  one_line := by decide
  unnamed := by decide +kernel

private theorem detached_closing : Detached [')'] where
  head c hc := .inr (Option.some.inj hc).symm
  one_line := by decide
  unnamed := by decide

/-- The tree that the tail is read as, whether blanks are skipped or not. -/
private def tailTree? (verbose : Bool) : Option Tree :=
  ((patternBody (tail.toList.length + 1) (.startingAt .start) []).run
    ⟨tail.toList, .start, verbose, []⟩).toOption.map Prod.fst

private theorem tailTree?_spec : (Tree.read tail.toList).toOption.any (fun t =>
    t.passes valueName.toList && t.passes unitName.toList && [false, true].all fun verbose =>
      (tailTree? verbose).any fun u => !u.isAlternatives && decide (u.bare = t.bare)) = true := by
  decide +kernel

/-- The tail is read as one tree with both groups in it, whether blanks are skipped or not. -/
private theorem exists_tailTree : ∃ tree, Tree.read tail.toList = .ok tree ∧
    tree.passes valueName.toList = true ∧ tree.passes unitName.toList = true ∧
    ∀ verbose, ∃ tree' last,
      (patternBody (tail.toList.length + 1) (.startingAt .start) []).run
        ⟨tail.toList, .start, verbose, []⟩ = .ok (tree', last) ∧
      tree'.isAlternatives = false ∧ tree'.bare = tree.bare := by
  obtain ⟨tree, hread, hspec⟩ := (Option.any_eq_true ..).mp tailTree?_spec
  simp only [Bool.and_eq_true, List.all_eq_true] at hspec
  obtain ⟨⟨hvalue, hunit⟩, hverbose⟩ := hspec
  refine ⟨tree, eq_ok_iff_toOption.mpr hread, hvalue, hunit, fun verbose => ?_⟩
  have hmem : verbose ∈ [false, true] := by cases verbose <;> simp
  obtain ⟨_, hfound, h⟩ := (Option.any_eq_true ..).mp (hverbose verbose hmem)
  obtain ⟨⟨tree', last⟩, hrun, rfl⟩ := Option.map_eq_some_iff.mp hfound
  rw [Bool.and_eq_true, Bool.not_eq_true', decide_eq_true_eq] at h
  exact ⟨tree', last, eq_ok_iff_toOption.mpr hrun, h⟩

/-- In whatever mode the tail is read, a match of it remembers a number and a unit. -/
theorem isSome_text?_of_matches_tail {m m' : Mode} {p : Plan}
    (hp : fragment m tail.toList = .ok (p, m')) {c c' : Cursor} {s s' : Captures}
    (h : p.Matches c s c' s') :
    (s'.text? valueName.toList).isSome = true ∧ (s'.text? unitName.toList).isSome = true := by
  obtain ⟨tree, hread, hvalue, hunit, -⟩ := exists_tailTree
  rw [fragment, hread] at hp
  obtain ⟨_, hx, hxname⟩ := h.exists_of_passes hvalue hp
  obtain ⟨_, hy, hyname⟩ := h.exists_of_passes hunit hp
  exact ⟨Captures.isSome_text? hx hxname, Captures.isSome_text? hy hyname⟩

/-- Behind members of a pattern and alternatives of it that have ended, the tail adds the members
that it is made of. -/
private theorem exists_members_of_run_tail {s : Source} (hs : s.rest = tail.toList) {k : Nat}
    (hk : tail.toList.length < k) {r : Run} {branches : List Tree} {frames : List Frame}
    (hheld : Held branches frames) {tree : Tree} {last : Source}
    (hrun : (patternBody k r frames).run s = .ok (tree, last)) :
    ∃ (ts : List Tree) (tailTree : Tree) (q : Run) (frames' : List Frame) (place : Place),
      Tree.read tail.toList = .ok tailTree ∧
      tailTree.bare = (Run.close ⟨.start, ts⟩ .start).bare ∧
      SameTrees (ts ++ r.members) q.members ∧ Held branches frames' ∧
      (closeAlternatives q frames' place).1.bare = tree.bare := by
  obtain ⟨tailTree, hread, -, -, htail⟩ := exists_tailTree
  obtain ⟨tree₁, last₁, hrun₁, hone, hbare₁⟩ := htail s.verbose
  let alone : Source := ⟨tail.toList, .start, s.verbose, []⟩
  -- where no names are used, the tail is read behind the members as well
  have hagain : Elsewhere s alone := ⟨hs.symm, rfl, by simp [alone]⟩
  obtain ⟨tree₂, last₂, hrun₂, hbare₂⟩ := hagain.exists_run 0 (.of_held hheld r) (hs ▸ hk) hrun
  -- and there it is read on top of them, as it is read on its own
  have hhere : Elsewhere alone alone := ⟨rfl, rfl, List.Subset.refl _⟩
  have hontop : Beneath ⟨r.members, branches⟩ (.startingAt .start) [] r frames :=
    .sequence rfl hheld
  obtain ⟨q, open₁, q', open', last₃, hopen, hclose, hrun₃⟩ :=
    hhere.exists_end (k - (tail.toList.length + 1)) hontop (Nat.lt_succ_self _) hrun₁
  obtain ⟨rfl, rfl⟩ := eq_close_of_run_closePattern hclose hone
  obtain ⟨hheld', hmembers⟩ := hopen.of_nil
  have hlength : tail.toList.length + 1 + (k - (tail.toList.length + 1)) = k := by omega
  rw [hlength] at hrun₃
  obtain ⟨rfl, -⟩ := eq_of_run_closePattern (hrun₃.symm.trans hrun₂)
  have hq : SameTrees (Run.mk .start q.members).members q.members := rfl
  refine ⟨q.members, tailTree, q', open', last₃.place, hread, ?_, hmembers, hheld', hbare₂⟩
  rw [← hbare₁]
  exact hq.bare_close .start last₁.place

/-! ### A marker in front of the tail -/

variable {marker : String}

/-- The flags are read first. -/
private theorem run_flags (text : List Char) : ∃ place,
    (patternBody ((flags.toList ++ text).length + 1) (.startingAt .start) []).run
        (.ofText (flags.toList ++ text)) =
      (patternBody (text.length + 5) ⟨.start, [flagsTree]⟩ []).run ⟨text, place, false, []⟩ := by
  have hlength : (flags.toList ++ text).length + 1 = text.length + 5 + 1 := by
    simp [flags]
  rw [hlength]
  exact run_patternBody_flags

/-- The reader of a marker's pattern comes to the tail with nothing below what the marker leaves
open but the flags. -/
private def ReachesTail (marker : String) (q : Run) (frames : List Frame) : Prop :=
  ∃ (r : Run) (frames' : List Frame) (s : Source) (k : Nat),
    Beneath ⟨[flagsTree], []⟩ q frames r frames' ∧
    s.rest = tail.toList ∧ tail.toList.length < k ∧
    (patternBody ((patternOf marker).toList.length + 1) (.startingAt .start) []).run
      (.ofText (patternOf marker).toList) = (patternBody k r frames').run s

/-- Either a marker is read and the tail is still to come, or a comment takes what stands behind the
marker, be it a closing parenthesis. -/
private theorem reachesTail_or_takes_more {tree : Tree} {last : Source}
    (hrun : (patternBody (marker.toList.length + 1) (.startingAt .start) []).run
      (.ofText marker.toList) = .ok (tree, last)) :
    (∃ q frames, (closePattern q frames).run last = .ok (tree, last) ∧
      ReachesTail marker q frames) ∨
    ∃ tree' last', (patternBody ((marker.toList ++ [')']).length + 1) (.startingAt .start) []).run
      (.ofText (marker.toList ++ [')'])) = .ok (tree', last') ∧ tree'.bare = tree.bare := by
  let x := marker.toList
  obtain ⟨place, hflags⟩ := run_flags (x ++ tail.toList)
  let behind : Bool → List Char := fun b => if b then tail.toList else [')']
  let sources : Bool → Source := fun b => ⟨x ++ behind b, if b then place else .start, false, []⟩
  let base : Bool → Below := fun b => ⟨if b then [flagsTree] else [], []⟩
  let extra : Bool → Nat := fun b => if b then tail.toList.length + 4 else 1
  have hdetached : ∀ b, Detached (behind b) := by
    intro b
    cases b with
    | true => exact detached_tail
    | false => exact detached_closing
  have hjoined : Joined behind x.length (.ofText x) sources :=
    ⟨hdetached, Nat.le_refl _, fun _ => rfl, fun _ => List.Subset.refl _, .inl fun _ => rfl⟩
  have hbeneath : ∀ b, Beneath (base b) (.startingAt .start) [] ⟨.start, (base b).members⟩ [] :=
    fun _ => .sequence rfl .none
  obtain ⟨k, t, q, r, frames, frames', hend, hopen, hclose, heq⟩ :=
    exists_end_of_run_patternBody hjoined (Nat.lt_succ_self _) extra hbeneath hrun
  obtain hrest | ⟨-, hlost⟩ := hend.rest_eq
  · left
    refine ⟨q, frames, hclose, r true, frames' true, t true, k + 1 + extra true, hopen true,
      ?_, ?_, ?_⟩
    · rw [hrest true, hend.rest_eq_nil]
      rfl
    · simp only [extra, if_true]
      omega
    · have hpattern : (patternOf marker).toList = flags.toList ++ (x ++ tail.toList) := by
        simp [patternOf, x]
      have hlength : (x ++ tail.toList).length + 5 = x.length + 1 + extra true := by
        simp only [List.length_append, extra, if_true]
        omega
      rw [hpattern, hflags, hlength]
      exact heq true
  · right
    have hlength : (x ++ [')']).length + 1 = x.length + 1 + extra false := by
      simp [extra]
    obtain ⟨tree', hclose', hbare⟩ := (hopen false).exists_closePattern hclose (t false)
    refine ⟨tree', t false, ?_, hbare⟩
    rw [hlength]
    exact (heq false).trans ((run_patternBody_of_rest_eq_nil (hlost false) _).trans hclose')

private theorem Finished.reachesTail (h : Finished marker) :
    ∃ (tree : Tree) (q : Run) (frames : List Frame) (last : Source),
      Tree.read marker.toList = .ok tree ∧ (closePattern q frames).run last = .ok (tree, last) ∧
      ReachesTail marker q frames := by
  obtain ⟨plan, hplan⟩ := h.compiles
  obtain ⟨tree, -, hread, -⟩ := Pattern.compile_eq_ok_iff.mp hplan
  obtain ⟨-, last, hrun⟩ := Tree.read_eq_ok_iff.mp hread
  obtain ⟨q, frames, hclose, hreaches⟩ | ⟨tree', last', hrun', hbare⟩ :=
    reachesTail_or_takes_more hrun
  · exact ⟨tree, q, frames, last, hread, hclose, hreaches⟩
  · exact absurd (compile_eq_ok_of_run hplan hread hrun' hbare) (h.ends plan)

/-- What members and those of the tail behind them come to. -/
private theorem exists_plan_of_members {ts ms ns : List Tree} {tailTree : Tree}
    (hbare : tailTree.bare = (Run.close ⟨.start, ts⟩ .start).bare)
    (hns : SameTrees (ts ++ ms) ns) {first last : Place} {m m' : Mode} {p : Plan}
    (h : (Run.close ⟨first, ns⟩ last).plan m = .ok (p, m')) :
    ∃ a m₁ b, (Tree.inOrder ms.reverse).plan m = .ok (a, m₁) ∧
      tailTree.plan m₁ = .ok (b, m') ∧ p.Matches = (Plan.sequence a b).Matches := by
  have hsame : SameTrees (Run.mk .start (ts ++ ms)).members (Run.mk first ns).members := hns
  have hplan := Tree.plan_eq_ok_of_bare_eq (hsame.bare_close .start last) h
  rw [Run.plan_close, List.reverse_append] at hplan
  obtain ⟨a, m₁, b, ha, hb, hmatches⟩ := Tree.exists_plan_of_inOrder_append hplan
  refine ⟨a, m₁, b, ha, Tree.plan_eq_ok_of_bare_eq hbare.symm ?_, hmatches⟩
  rw [Run.plan_close]
  exact hb

/-- What the flags and members behind them come to. -/
private theorem exists_plan_of_flags {ts : List Tree} {m' : Mode} {p : Plan}
    (h : (Tree.inOrder (flagsTree :: ts)).plan .initial = .ok (p, m')) :
    ∃ a, (Tree.inOrder ts).plan .marker = .ok (a, m') ∧ p.Matches = a.Matches := by
  obtain ⟨_, _, a, hflags, ha, hmatches⟩ := Tree.exists_plan_of_inOrder_cons h
  obtain ⟨rfl, rfl⟩ : _ ∧ _ := Prod.mk.inj (Except.ok.inj hflags)
  exact ⟨a, ha, hmatches.trans (Plan.matches_empty_sequence a)⟩

/-- A marker that is one sequence has the tail behind its members. -/
private theorem ReachesTail.of_sequence {q : Run} {place : Place} (h : ReachesTail marker q [])
    (hmarker : Tree.read marker.toList = .ok (q.close place)) {plan : Plan}
    (hplan : Pattern.compile (patternOf marker).toList = .ok plan) :
    ∃ a b m m', fragment .marker marker.toList = .ok (a, m) ∧
      fragment m tail.toList = .ok (b, m') ∧ plan.Matches = (Plan.sequence a b).Matches := by
  obtain ⟨tree, m', hread, htree, -⟩ := Pattern.compile_eq_ok_iff.mp hplan
  obtain ⟨-, last, hrun⟩ := Tree.read_eq_ok_iff.mp hread
  obtain ⟨r, frames', s, k, hopen, hs, hk, heq⟩ := h
  obtain ⟨hheld, hmembers⟩ := hopen.of_nil
  obtain ⟨ts, tailTree, q', open', stop, htail, htailBare, hq', hheld', hbare⟩ :=
    exists_members_of_run_tail hs hk hheld (heq.symm.trans hrun)
  obtain rfl := hheld'.eq_nil
  have hwhole : (q'.close stop).plan .initial = .ok (plan, m') :=
    Tree.plan_eq_ok_of_bare_eq hbare.symm htree
  -- all members of the pattern in their order
  have hall : SameTrees (ts ++ (q.members ++ [flagsTree])) q'.members := by
    rw [SameTrees, hq', List.map_append, List.map_append, hmembers]
  obtain ⟨f, m, b, hf, hb, hmatches⟩ := exists_plan_of_members htailBare hall hwhole
  rw [List.reverse_append] at hf
  obtain ⟨a, ha, hfMatches⟩ := exists_plan_of_flags hf
  refine ⟨a, b, m, m', ?_, (fragment_of_read htail m).trans hb, ?_⟩
  · exact (fragment_of_read hmarker .marker).trans ((q.plan_close place .marker).trans ha)
  · rw [hmatches]
    exact Plan.matches_sequence_congr hfMatches rfl

/-- A marker of several alternatives has the flags in front of the first one and the tail behind the
last one. -/
private theorem ReachesTail.of_branch {q : Run} {first place : Place} {branches : List Tree}
    (h : ReachesTail marker q [.alternatives first branches])
    (hmarker : Tree.read marker.toList =
      .ok (closeAlternatives q [.alternatives first branches] place).1) {plan : Plan}
    (hplan : Pattern.compile (patternOf marker).toList = .ok plan) :
    ∃ a b m m', fragment .marker marker.toList = .ok (a, m) ∧
      fragment m tail.toList = .ok (b, m') ∧ ∀ {c s c' s'}, plan.Matches c s c' s' →
        (Plan.sequence a b).Matches c s c' s' ∨ a.Matches c s c' s' := by
  obtain ⟨tree, m', hread, htree, -⟩ := Pattern.compile_eq_ok_iff.mp hplan
  obtain ⟨-, last, hrun⟩ := Tree.read_eq_ok_iff.mp hread
  obtain ⟨r, frames', s, k, hopen, hs, hk, heq⟩ := h
  cases hopen with
  | @branch _ _ _ first' branches branches' _ _ members later earliest =>
    obtain ⟨q₀, q₀', place₀, place₀', rfl, rfl, hearliest⟩ := earliest
    obtain ⟨ts, tailTree, q', open', stop, htail, htailBare, hq', hheld, hbare⟩ :=
      exists_members_of_run_tail hs hk (.of_ne_nil (by simp) first') (heq.symm.trans hrun)
    have hwhole := Tree.plan_eq_ok_of_bare_eq hbare.symm htree
    have hreverse (t u : Tree) (us : List Tree) :
        (t :: (us ++ [u])).reverse = u :: (us.reverse ++ [t]) := by simp
    rw [hheld.plan_closeAlternatives, hreverse] at hwhole
    obtain ⟨f', m₁, p, hf', hp, rfl⟩ := Tree.exists_plan_of_inChoice_cons (by simp) hwhole
    -- the first alternative, without the flags
    have hfirst : SameTrees (Run.mk .start (q₀.members ++ [flagsTree])).members q₀'.members :=
      hearliest
    have hflags := Tree.plan_eq_ok_of_bare_eq (hfirst.bare_close .start place₀') hf'
    rw [Run.plan_close, List.reverse_append] at hflags
    obtain ⟨f, hf, hfMatches⟩ := exists_plan_of_flags hflags
    -- the other ones, the last of them without the tail
    have hlast : SameTrees (ts ++ q.members) q'.members := by
      rw [SameTrees, hq', List.map_append, List.map_append, members]
    obtain ⟨a, m, b, ha, hb, hmatches⟩ :=
      Tree.exists_plan_of_inChoice_concat (t := q.close place) (fun hlastPlan => by
        rw [q.plan_close]
        exact exists_plan_of_members htailBare hlast hlastPlan) hp
    have hothers : (Tree.inChoice (branches.reverse ++ [q.close place])).plan m₁ = .ok (a, m) := by
      refine Tree.plan_eq_ok_of_bare_eq ?_ ha
      rw [Tree.bare_inChoice, Tree.bare_inChoice, List.map_append, List.map_append,
        List.map_reverse, List.map_reverse, later]
    refine ⟨f.or a, b, m, m', ?_, (fragment_of_read htail m).trans hb, fun hfound => ?_⟩
    · rw [fragment_of_read hmarker, (Held.of_ne_nil (by simp) first).plan_closeAlternatives,
        hreverse]
      exact Tree.plan_inChoice_cons (by simp) ((q₀.plan_close place₀ .marker).trans hf) hothers
    · rw [Plan.matches_or] at hfound
      simp only [Plan.Matches, Plan.matches_or]
      obtain hfirst | hothers := hfound
      · exact .inr (.inl (hfMatches ▸ hfirst))
      obtain ⟨c₁, s₁, hfound, hmore⟩ | hfound := hmatches hothers
      · exact .inl ⟨c₁, s₁, .inr hfound, hmore⟩
      · exact .inr (.inr hfound)

/-- The pattern of a marker that stands on its own matches as the marker does, and then the tail in
the mode that the marker leaves. -/
theorem SelfContained.exists_fragments (h : SelfContained marker) {plan : Plan}
    (hplan : Pattern.compile (patternOf marker).toList = .ok plan) :
    ∃ a b m m', fragment .marker marker.toList = .ok (a, m) ∧
      fragment m tail.toList = .ok (b, m') ∧ plan.Matches = (Plan.sequence a b).Matches := by
  obtain ⟨tree, q, frames, last, hmarker, hclose, hreaches⟩ := h.finished.reachesTail
  obtain ⟨rfl, rfl⟩ := eq_close_of_run_closePattern hclose (h.one_branch tree hmarker)
  exact hreaches.of_sequence hmarker hplan

/-- A match of the pattern of a finished marker is one of the marker and then one of the tail in the
mode that the marker leaves, unless the marker has alternatives and it is a match of the marker. -/
theorem Finished.exists_fragments (h : Finished marker) {plan : Plan}
    (hplan : Pattern.compile (patternOf marker).toList = .ok plan) :
    ∃ tree a b m m', Tree.read marker.toList = .ok tree ∧
      fragment .marker marker.toList = .ok (a, m) ∧ fragment m tail.toList = .ok (b, m') ∧
      ∀ {c s c' s'}, plan.Matches c s c' s' → (Plan.sequence a b).Matches c s c' s' ∨
        tree.isAlternatives = true ∧ a.Matches c s c' s' := by
  obtain ⟨tree, q, frames, last, hmarker, hclose, hreaches⟩ := h.reachesTail
  obtain ⟨rfl, -⟩ := eq_of_run_closePattern hclose
  have ⟨_, _, _, _, hopen, _⟩ := hreaches
  obtain rfl | ⟨first, branches, rfl⟩ := hopen.eq_of_run_closePattern hclose
  · obtain ⟨a, b, m, m', ha, hb, heq⟩ := hreaches.of_sequence hmarker hplan
    exact ⟨_, a, b, m, m', hmarker, ha, hb, fun hmatches => .inl (heq ▸ hmatches)⟩
  · obtain ⟨a, b, m, m', ha, hb, hmatches⟩ := hreaches.of_branch hmarker hplan
    obtain ⟨_, _, -, heq⟩ := closeAlternatives_eq q first branches [] last.place
    have halternatives : Tree.isAlternatives
        (closeAlternatives q [.alternatives first branches] last.place).1 = true := by
      rw [heq]
      rfl
    exact ⟨_, a, b, m, m', hmarker, ha, hb, fun hfound =>
      (hmatches hfound).imp_right fun halone => ⟨halternatives, halone⟩⟩

/-! ### What is found -/

/-- A match at a cursor that is one of a marker and, from where that ends, one of the tail. -/
inductive MarkerThenTail (marker : String) (start : Cursor) (captures : Captures) : Prop
  | intro {a b : Plan} {m m' : Mode} {c c' : Cursor} {s : Captures}
    (marker_plan : fragment .marker marker.toList = .ok (a, m))
    (tail_plan : fragment m tail.toList = .ok (b, m'))
    (marker_matches : a.Matches start [] c s) (tail_matches : b.Matches c s c' captures) :
    MarkerThenTail marker start captures

/-- A plan **matches in turn** if whatever it finds in a text is a match of a marker and then one of
the tail, with the number and the unit remembered. -/
def MatchesInTurn (marker : String) (plan : Plan) : Prop :=
  ∀ text captures, plan.search? text = some captures → ∃ n ≤ text.length,
    plan.captures? ((Cursor.ofText text).advance n) = some captures ∧
    MarkerThenTail marker ((Cursor.ofText text).advance n) captures ∧
    (captures.text? valueName.toList).isSome = true ∧
    (captures.text? unitName.toList).isSome = true

theorem SelfContained.matchesInTurn (h : SelfContained marker) {plan : Plan}
    (hplan : Pattern.compile (patternOf marker).toList = .ok plan) :
    MatchesInTurn marker plan := by
  intro text captures hfound
  obtain ⟨n, hn, hcaptures⟩ := Plan.exists_captures?_of_search? hfound
  obtain ⟨c', s', hmatches, hs'⟩ := Plan.exists_matches_of_run hcaptures
  obtain rfl : s' = captures := Option.some.inj hs'
  obtain ⟨a, b, m, m', ha, hb, heq⟩ := h.exists_fragments hplan
  rw [heq] at hmatches
  obtain ⟨c, s, hfirst, hsecond⟩ := hmatches
  exact ⟨n, hn, hcaptures, .intro ha hb hfirst hsecond,
    isSome_text?_of_matches_tail hb hsecond⟩

/-- In an accepted table, the patterns of all markers that stand on their own match in turn. -/
theorem matches_marker_then_tail {table : Table} {g : Grammar} (h : ofTable table = .ok g) :
    List.Forall₂ (fun entry test =>
        SelfContained entry.marker → MatchesInTurn entry.marker test.plan) table.tests g.tests ∧
      (SelfContained table.total → MatchesInTurn table.total g.totalPlan) := by
  have haccepts := ofTable_eq_ok_iff.mp h
  refine ⟨haccepts.tests.imp fun entry test hmade hself => ?_, fun hself => ?_⟩
  · exact hself.matchesInTurn (compile_eq_ok_iff.mp hmade.compile_eq)
  · exact hself.matchesInTurn (compile_eq_ok_iff.mp haccepts.compile_total)

private theorem exists_found (table : Table) (text : List Char) (f : Captures → Bool)
    (h : (ofTable table).toOption.any (fun g => g.tests.any fun test =>
      (test.plan.search? text).any f) = true) :
    ∃ g, ofTable table = .ok g ∧ ∃ test ∈ g.tests, ∃ captures,
      test.plan.search? text = some captures ∧ f captures = true := by
  obtain ⟨g, hg, htests⟩ := (Option.any_eq_true ..).mp h
  obtain ⟨test, htest, hfound⟩ := List.any_eq_true.mp htests
  obtain ⟨captures, hcaptures, hf⟩ := (Option.any_eq_true ..).mp hfound
  exact ⟨g, eq_ok_iff_toOption.mpr hg, test, htest, captures, hcaptures, hf⟩

/-- A marker with flags of its own, alternatives in a group and a comment that ends stands on its
own. -/
theorem matches_marker_then_tail_grouped :
    let marker := "(?x) (?: loop | nested ) \\ [ab]: # either of them\n"
    let text := "Nested B: 5 ms".toList
    ∃ g, ofTable ⟨[⟨"loop", "Loop", marker⟩], "Total:"⟩ = .ok g ∧ SelfContained marker ∧
      ∃ test ∈ g.tests, ∃ captures, test.plan.search? text = some captures ∧
      captures.text? valueName.toList = some ['5'] ∧
      captures.text? unitName.toList = some ['m', 's'] ∧
      ∃ n, MarkerThenTail marker ((Cursor.ofText text).advance n) captures := by
  intro marker text
  obtain ⟨g, hg, test, htest, captures, hcaptures, hf⟩ :=
    exists_found ⟨[⟨"loop", "Loop", marker⟩], "Total:"⟩ text
      (fun captures => captures.text? valueName.toList == some ['5'] &&
        captures.text? unitName.toList == some ['m', 's']) (by decide +kernel)
  have hself : SelfContained marker := by decide +kernel
  obtain ⟨hturn, -⟩ := matches_marker_then_tail hg
  obtain ⟨only, rest, hfirst, hrest, htests⟩ := List.forall₂_cons_left_iff.mp hturn
  obtain rfl : rest = [] := List.forall₂_nil_left_iff.mp hrest
  obtain rfl : test = only := by simpa [htests] using htest
  obtain ⟨n, -, -, hmatch, -⟩ := hfirst hself text captures hcaptures
  rw [Bool.and_eq_true, beq_iff_eq, beq_iff_eq] at hf
  exact ⟨g, hg, hself, test, htest, captures, hcaptures, hf.1, hf.2, n, hmatch⟩

/-- Of alternatives that are in no group, all but the last one match without the tail: a test is
found, but without its number and its unit. -/
theorem matches_without_tail_of_alternatives :
    let marker := "Loop A:|Loop B:"
    ∃ g, ofTable ⟨[⟨"loop", "Loop", marker⟩], "Total:"⟩ = .ok g ∧
      (∃ plan, Pattern.compile marker.toList = .ok plan) ∧
      (∃ plan, Pattern.compile "Total:".toList = .ok plan) ∧
      ∃ test ∈ g.tests, ∃ captures,
        test.plan.search? "Loop A: 5 ms\n".toList = some captures ∧
        captures.text? valueName.toList = none ∧ captures.text? unitName.toList = none := by
  intro marker
  have hmarker : ∃ plan, Pattern.compile marker.toList = .ok plan :=
    exists_eq_ok_iff_toOption.mpr (by decide +kernel)
  have htotal : ∃ plan, Pattern.compile "Total:".toList = .ok plan :=
    exists_eq_ok_iff_toOption.mpr (by decide +kernel)
  obtain ⟨g, hg, test, htest, captures, hcaptures, hf⟩ :=
    exists_found ⟨[⟨"loop", "Loop", marker⟩], "Total:"⟩ "Loop A: 5 ms\n".toList
      (fun captures => (captures.text? valueName.toList).isNone &&
        (captures.text? unitName.toList).isNone) (by decide +kernel)
  rw [Bool.and_eq_true, Option.isNone_iff_eq_none, Option.isNone_iff_eq_none] at hf
  exact ⟨g, hg, hmarker, htotal, test, htest, captures, hcaptures, hf⟩

end Grammar

end Timekeeper
