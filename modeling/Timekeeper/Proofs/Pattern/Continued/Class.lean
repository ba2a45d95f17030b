import Timekeeper.Proofs.Pattern.Continued.Escape

/-!
# Classes with more behind them

A class that the fragment ends within is blamed as well, so the reader of classes keeps step up to
the closing bracket. What it keeps on its stack agrees, spans apart (`Members.bare`,
`ClassFrame.bare`). Two looks ahead go beyond the next character: at the name of an ASCII class,
which a text without `:]` cannot complete, and past blanks behind a hyphen.
-/

namespace Timekeeper

namespace Pattern

/-! ### Stacks without their spans -/

/-- Members without their spans. -/
def Members.bare (m : Members) : Members := ⟨.nowhere, m.items.map ClassTree.bare⟩

/-- What waits for a class, without its spans. -/
def ClassFrame.bare : ClassFrame → ClassFrame
  | opened outer _ negated => opened outer.bare .nowhere negated
  | operand kind left => operand kind left.bare

namespace Members

variable {m m' : Members}

theorem bare_push (h : m'.bare = m.bare) {item item' : ClassTree} (hitem : item'.bare = item.bare) :
    (m'.push item').bare = (m.push item).bare := by
  have hitems : m'.items.map ClassTree.bare = m.items.map ClassTree.bare := congrArg items h
  simp only [bare, push, List.map_cons, hitem, hitems]

theorem bare_close (m : Members) : m.close.bare = m.bare.close := by
  have hreverse : m.bare.items.reverse = m.items.reverse.map ClassTree.bare :=
    List.map_reverse.symm
  rw [close, close, hreverse]
  match m.items.reverse with
  | [] => rfl
  | [item] => rfl
  | first :: second :: rest =>
    simp only [List.map_cons, ClassTree.bare, ClassTree.bare_chain]
    rfl

theorem isEmpty_items (h : m'.bare = m.bare) : m'.items.isEmpty = m.items.isEmpty := by
  have hitems : m'.items.map ClassTree.bare = m.items.map ClassTree.bare := congrArg items h
  rw [← List.isEmpty_map, hitems, List.isEmpty_map]

end Members

theorem bare_joinOperand {frames frames' : List ClassFrame} {right right' : ClassTree}
    (hframes : frames'.map ClassFrame.bare = frames.map ClassFrame.bare)
    (hright : right'.bare = right.bare) :
    (joinOperand frames' right').1.map ClassFrame.bare =
        (joinOperand frames right).1.map ClassFrame.bare ∧
      (joinOperand frames' right').2.bare = (joinOperand frames right).2.bare := by
  match frames, frames' with
  | [], [] => exact ⟨rfl, hright⟩
  | [], _ :: _ => simp at hframes
  | _ :: _, [] => simp at hframes
  | .opened _ _ _ :: _, .opened _ _ _ :: _ => exact ⟨hframes, hright⟩
  | .opened _ _ _ :: _, .operand _ _ :: _ => simp [ClassFrame.bare] at hframes
  | .operand _ _ :: _, .opened _ _ _ :: _ => simp [ClassFrame.bare] at hframes
  | .operand kind left :: others, .operand kind' left' :: others' =>
    simp only [List.map_cons, ClassFrame.bare, List.cons.injEq, ClassFrame.operand.injEq]
      at hframes
    obtain ⟨⟨rfl, hleft⟩, hothers⟩ := hframes
    simp only [joinOperand, ClassTree.bare, hothers, hleft, hright, and_self]

/-! ### Looking ahead -/

section Ahead

variable {x y : List Char}

/-- The named class whose name, and the sign of its end, a text begins with. -/
private def named? (negated : Bool) (body : List Char) : Option (AsciiClass × Bool × Nat) :=
  match body.dropWhile (· != ':'), asciiOfName? (body.takeWhile (· != ':')) with
  | ':' :: ']' :: _, some kind =>
    some (kind, negated, (body.takeWhile (· != ':')).length + if negated then 5 else 4)
  | _, _ => none

private theorem asciiPrefix?_cons (rest : List Char) : asciiPrefix? ('[' :: ':' :: rest) =
    named? (rest.head? == some '^') (if rest.head? == some '^' then rest.tail else rest) := rfl

private theorem asciiPrefix?_eq_none (h : ∀ rest, x ≠ '[' :: ':' :: rest) :
    asciiPrefix? x = none := by
  rw [asciiPrefix?]
  exact h

/-- A name is complete only in front of its end. -/
private theorem named?_eq_none {negated : Bool} {body : List Char}
    (h : ∀ rest, body.dropWhile (· != ':') ≠ ':' :: ']' :: rest) : named? negated body = none := by
  rw [named?]
  split
  · simp_all
  · rfl

private theorem named?_append (hy : Detached y) (negated : Bool) (body : List Char) :
    named? negated (body ++ y) = named? negated body := by
  by_cases hmem : ':' ∈ body
  · -- the name ends within the text
    obtain ⟨name, rest, rfl, hname⟩ := List.eq_append_cons_of_mem hmem
    have hpos : ∀ c ∈ name, (c != ':') = true := fun c hc => by
      simpa using ne_of_mem_of_not_mem hc hname
    have htake : ∀ z, (name ++ ':' :: z).takeWhile (· != ':') = name := fun z => by
      rw [List.takeWhile_append_of_pos hpos, List.takeWhile_cons_of_neg (by simp), List.append_nil]
    have hdrop : ∀ z, (name ++ ':' :: z).dropWhile (· != ':') = ':' :: z := fun z => by
      rw [List.dropWhile_append_of_pos hpos, List.dropWhile_cons_of_neg (by simp)]
    rw [List.append_assoc, List.cons_append, named?, named?, htake, hdrop, htake, hdrop]
    cases rest with
    | nil =>
      have hne : y.head? ≠ some ']' := hy.head_ne (by decide)
      rw [List.nil_append]
      split <;> simp_all
    | cons c rest => split <;> simp_all
  · -- without an end in the text there is none behind it either
    have hpos : ∀ c ∈ body, (c != ':') = true := fun c hc => by
      simpa using ne_of_mem_of_not_mem hc hmem
    rw [named?_eq_none fun rest hrest => ?_, named?_eq_none fun rest hrest => ?_]
    · have hsuffix : ':' :: ']' :: rest <:+ body := hrest ▸ List.dropWhile_suffix _
      exact hmem (hsuffix.subset List.mem_cons_self)
    · rw [List.dropWhile_append_of_pos hpos] at hrest
      have hsuffix : ':' :: ']' :: rest <:+ y := hrest ▸ List.dropWhile_suffix _
      exact hy.unnamed ((List.prefix_append [':', ']'] rest).isInfix.trans hsuffix.isInfix)

/-- A named class does not go on into a detached text. -/
theorem asciiPrefix?_append (hy : Detached y) (x : List Char) :
    asciiPrefix? (x ++ y) = asciiPrefix? x := by
  by_cases hx : ∃ rest, x = '[' :: ':' :: rest
  · obtain ⟨rest, rfl⟩ := hx
    have hsign : ((rest ++ y).head? == some '^') = (rest.head? == some '^') := by
      cases rest with
      | nil => simpa using hy.head_ne (by decide)
      | cons c rest => rfl
    have hbody : (if rest.head? == some '^' then (rest ++ y).tail else rest ++ y) =
        (if rest.head? == some '^' then rest.tail else rest) ++ y := by
      cases rest with
      | nil => rfl
      | cons c rest => split <;> rfl
    rw [List.cons_append, List.cons_append, asciiPrefix?_cons, asciiPrefix?_cons, hsign, hbody,
      named?_append hy]
  · rw [asciiPrefix?_eq_none fun rest hrest => hx ⟨rest, hrest⟩,
      asciiPrefix?_eq_none fun rest hrest => ?_]
    -- neither of the two signs begins the text behind
    match x with
    | [] => exact hy.head_ne (by decide) (congrArg List.head? hrest)
    | [c] => exact hy.head_ne (by decide) (congrArg List.head? (List.cons.inj hrest).2)
    | c :: d :: z =>
      simp only [List.cons_append, List.cons.injEq] at hrest
      obtain ⟨rfl, rfl, -⟩ := hrest
      exact hx ⟨z, rfl⟩

private theorem length_le_of_named? {kind : AsciiClass} {negated b : Bool} {body : List Char}
    {m : Nat} (h : named? negated body = some (kind, b, m)) :
    m ≤ body.length + if negated then 3 else 2 := by
  rw [named?] at h
  split at h
  case h_1 rest kind' hdrop _ =>
    obtain ⟨-, -, rfl⟩ : kind' = kind ∧ negated = b ∧ _ = m := by simpa using h
    have hlength :=
      congrArg List.length (List.takeWhile_append_dropWhile (p := (· != ':')) (l := body))
    rw [hdrop, List.length_append, List.length_cons, List.length_cons] at hlength
    split <;> omega
  case h_2 => contradiction

theorem length_le_of_asciiPrefix? {kind : AsciiClass} {negated : Bool} {m : Nat}
    (h : asciiPrefix? x = some (kind, negated, m)) : m ≤ x.length := by
  obtain ⟨rest, rfl⟩ : ∃ rest, x = '[' :: ':' :: rest := by
    by_contra hx
    rw [asciiPrefix?_eq_none fun rest hrest => hx ⟨rest, hrest⟩] at h
    contradiction
  rw [asciiPrefix?_cons] at h
  have hm := length_le_of_named? h
  cases rest with
  | nil => simpa using hm
  | cons c rest =>
    simp only [List.head?_cons, List.tail_cons] at hm
    simp only [List.length_cons]
    by_cases hc : c = '^'
    · simp only [hc, beq_self_eq_true, if_true] at hm
      omega
    · simp only [Option.some_beq_some, beq_eq_false_iff_ne.mpr hc, Bool.false_eq_true, if_false,
        List.length_cons] at hm
      omega

private theorem dropWhile_isBlank_append (hy : Detached y) (x : List Char) :
    x.dropWhile Text.isBlank = [] ∧ (x ++ y).dropWhile Text.isBlank = y ∨
      ∃ c z, x.dropWhile Text.isBlank = c :: z ∧
        (x ++ y).dropWhile Text.isBlank = c :: (z ++ y) := by
  rw [List.dropWhile_append]
  cases hdrop : x.dropWhile Text.isBlank with
  | nil =>
    refine .inl ⟨rfl, ?_⟩
    rw [List.isEmpty_nil, if_pos rfl]
    cases y with
    | nil => rfl
    | cons c y =>
      have hc : Text.isBlank c = false := hy.not_of_head (by decide) rfl
      rw [List.dropWhile_cons_of_neg (by simp [hc])]
  | cons c z => exact .inr ⟨c, z, rfl, rfl⟩

/-- The character that a look past blanks and one sign of a comment finds. -/
private def inked? (behind : List Char) : Option Char :=
  match behind.dropWhile Text.isBlank with
  | '#' :: rest => (rest.dropWhile Text.isBlank).head?
  | rest => rest.head?

private theorem second?_eq (s : Source) : s.second? =
    if s.verbose then inked? s.rest.tail <|> s.rest.tail.head? else s.rest.tail.head? := rfl

section Sign

variable {c : Char} (hc : c = ']' ∨ c = '-')

include hc

private theorem head?_append_eq_some_iff (hy : Detached y) (x : List Char) :
    (x ++ y).head? = some c ↔ x.head? = some c := by
  cases x with
  | nil =>
    have hne : y.head? ≠ some c := by obtain rfl | rfl := hc <;> exact hy.head_ne (by decide)
    simpa using hne
  | cons d x => rfl

private theorem inked?_append_eq_some_iff (hy : Detached y) (x : List Char) :
    inked? (x ++ y) = some c ↔ inked? x = some c := by
  have hink (x : List Char) : ((x ++ y).dropWhile Text.isBlank).head? = some c ↔
      (x.dropWhile Text.isBlank).head? = some c := by
    obtain ⟨hx, hxy⟩ | ⟨d, z, hx, hxy⟩ := dropWhile_isBlank_append hy x
    · rw [hx, hxy]
      exact head?_append_eq_some_iff hc hy []
    · rw [hx, hxy]
      rfl
  obtain ⟨hx, hxy⟩ | ⟨d, z, hx, hxy⟩ := dropWhile_isBlank_append hy x
  · rw [inked?, inked?, hx, hxy]
    have hsharp : y.head? ≠ some '#' := hy.head_ne (by decide)
    split
    · simp_all
    · exact head?_append_eq_some_iff hc hy []
  · rw [inked?, inked?, hx, hxy]
    by_cases hd : d = '#'
    · subst hd
      exact hink z
    · split <;> split <;> simp_all

/-- A bracket or a hyphen is found past blanks if it comes next. -/
private theorem second?_eq_some_iff (s : Source) : s.second? = some c ↔
    (if s.verbose then inked? s.rest.tail else s.rest.tail.head?) = some c := by
  rw [second?_eq]
  split
  · cases hinked : inked? s.rest.tail with
    | some d => rfl
    | none =>
      refine iff_of_false (fun hhead => ?_) (by simp)
      obtain ⟨rest, hrest⟩ : ∃ rest, s.rest.tail = c :: rest := List.head?_eq_some_iff.mp hhead
      have hblank : Text.isBlank c = false := by obtain rfl | rfl := hc <;> decide
      rw [inked?, hrest, List.dropWhile_cons_of_neg (by simp [hblank])] at hinked
      obtain rfl | rfl := hc <;> contradiction
  · rfl

end Sign

/-- What a look past blanks finds behind a hyphen is a bracket or a hyphen in the same cases. -/
theorem second?_eq_some_iff_of_append {s t : Source} (hy : Detached y) (hs : s.rest ≠ [])
    (hrest : t.rest = s.rest ++ y) (hverbose : t.verbose = s.verbose) {c : Char}
    (hc : c = ']' ∨ c = '-') : t.second? = some c ↔ s.second? = some c := by
  obtain ⟨d, x, hcons⟩ := List.exists_cons_of_ne_nil hs
  rw [second?_eq_some_iff hc, second?_eq_some_iff hc, hverbose, hrest, hcons, List.cons_append,
    List.tail_cons, List.tail_cons]
  split
  · exact inked?_append_eq_some_iff hc hy x
  · exact head?_append_eq_some_iff hc hy x

end Ahead

/-! ### Members -/

variable {ι : Type} {behind : ι → List Char} {n : Nat} {s : Source} {t : ι → Source}

/-- Classes that are the same, places apart. -/
abbrev SameClass (t u : ClassTree) : Prop := u.bare = t.bare

theorem Blames.unclosedClass {α : Type} (frames : List ClassFrame) :
    Blames (unclosedClass frames : Reading α) := by
  induction frames with
  | nil => exact .bind_right fun _ => .blame _ _
  | cons frame frames ih =>
    cases frame with
    | opened outer span negated => exact .blame _ _
    | operand kind left => exact ih

theorem InStep.asciiClass? (h : Joined behind n s t) :
    InStep asciiClass? (fun _ => asciiClass?) s t fun a b s' t' =>
      (a = none → s' = s) ∧
        Agree behind n (fun a b => b.map ClassTree.bare = a.map ClassTree.bare) a b s' t' := by
  have hfront : ∀ i, asciiPrefix? (t i).rest = asciiPrefix? s.rest := by
    intro i
    obtain ⟨x, hx, hrest⟩ := h.exists_append i
    rw [hrest, asciiPrefix?_append hx]
  simp only [Pattern.asciiClass?]
  refine .step rfl (fun _ => rfl) (.step rfl (fun _ => rfl) ?_)
  simp only [hfront]
  cases hfound : asciiPrefix? s.rest with
  | none => exact .pure ⟨fun _ => rfl, h, fun _ => rfl⟩
  | some found =>
    obtain ⟨kind, negated, length⟩ := found
    refine .step rfl (fun _ => rfl) (.step rfl (fun _ => rfl) ?_)
    have hlength := length_le_of_asciiPrefix? hfound
    exact .pure ⟨fun hnone => by contradiction, h.advanceBy hlength, fun _ => rfl⟩

theorem InStep.classAtom (h : Joined behind (n + 1) s t) :
    InStep classAtom (fun _ => classAtom) s t (Agree behind n SameTree) := by
  simp only [Pattern.classAtom]
  refine .next? h (fun c rest hs => ?_) fun _ => .of_blames (.bind_right fun _ => .blame _ _)
  have hs' : s.rest ≠ [] := by simp [hs]
  split
  case h_1 => contradiction
  case h_2 => exact .escape h hs'
  case h_3 =>
    refine .step rfl (fun _ => rfl) (.advance h hs' fun s₁ t₁ h₁ => ?_)
    exact .pure ⟨h₁, fun _ => rfl⟩

theorem memberOf_bare (t : Tree) : memberOf t.bare = (memberOf t).map ClassTree.bare := by
  cases t <;> rfl

/-- A tree that is a literal, places apart, is a literal. -/
theorem Tree.exists_literal_of_bare_eq {t : Tree} {l : Literal}
    (h : t.bare = (Tree.literal l).bare) : ∃ l', t = .literal l' ∧ l'.bare = l.bare := by
  cases t <;> simp_all [Tree.bare]

/-- An end of a range is the same literal, places apart. -/
theorem InStep.rangeEnd {atom : Tree} {atom' : ι → Tree} (hatom : ∀ i, SameTree atom (atom' i)) :
    InStep (rangeEnd atom) (fun i => rangeEnd (atom' i)) s t fun a b s' t' =>
      s' = s ∧ t' = t ∧ ∀ i, (b i).bare = a.bare := by
  by_cases hliteral : ∃ l, atom = .literal l
  · obtain ⟨l, rfl⟩ := hliteral
    choose l' hl' hbare using fun i => Tree.exists_literal_of_bare_eq (hatom i)
    obtain rfl : atom' = fun i => .literal (l' i) := funext hl'
    exact .pure ⟨rfl, rfl, hbare⟩
  · refine .of_blames ?_
    rw [Pattern.rangeEnd]
    · exact .blame _ _
    · exact fun l hl => hliteral ⟨l, hl⟩

theorem InStep.classMember (h : Joined behind (n + 1) s t) (frames : List ClassFrame)
    (frames' : ι → List ClassFrame) :
    InStep (classMember frames) (fun i => classMember (frames' i)) s t
      (Agree behind n SameClass) := by
  simp only [Pattern.classMember]
  refine (InStep.classAtom h).bind fun atom atom' s₁ t₁ ⟨h₁, hatom⟩ => ?_
  refine .skip h₁ fun s₂ t₂ h₂ => .step rfl (fun _ => rfl) ?_
  refine .notEmpty h₂ (.bind_left (.unclosedClass frames)) fun hs₂ => ?_
  -- whether a hyphen begins a range does not depend on what is behind the fragment
  have hsecond : ∀ i c, c = ']' ∨ c = '-' → ((t₂ i).second? = some c ↔ s₂.second? = some c) := by
    intro i c hc
    obtain ⟨x, hx, hrest⟩ := h₂.exists_append i
    exact second?_eq_some_iff_of_append hx hs₂ hrest (h₂.verbose_eq i) hc
  have hhead : ∀ i, (t₂ i).rest.head? = s₂.rest.head? := by
    intro i
    obtain ⟨c, rest, hcons⟩ := List.exists_cons_of_ne_nil hs₂
    rw [h₂.of_cons hcons i, hcons]
    rfl
  refine .ite (fun i => ?_) (fun _ => ?_) fun _ => ?_
  · rw [hhead i, hsecond i ']' (.inl rfl), hsecond i '-' (.inr rfl)]
  · cases hitem : memberOf atom with
    | none => exact .of_blames (.blame _ _)
    | some item =>
      have hmember : ∀ i, ∃ item', memberOf (atom' i) = some item' ∧ SameClass item item' := by
        intro i
        have hbare := congrArg memberOf (hatom i)
        rw [memberOf_bare, memberOf_bare, hitem] at hbare
        simpa using hbare
      choose item' hitem' hsame using hmember
      simp only [hitem']
      exact .pure ⟨h₂, hsame⟩
  · refine .advanceSkip (h₂.mono n.le_succ) hs₂ fun s₃ t₃ h₃ => ?_
    refine .notAtEnd h₃ (.bind_left (.unclosedClass frames)) fun _ => ?_
    refine (InStep.classAtom (h₃.mono n.le_succ)).bind fun other other' s₄ t₄ ⟨h₄, hother⟩ => ?_
    refine (InStep.rangeEnd hatom).bind ?_
    rintro first first' _ _ ⟨rfl, rfl, hfirst⟩
    refine (InStep.rangeEnd hother).bind ?_
    rintro last last' _ _ ⟨rfl, rfl, hlast⟩
    refine .ite (fun i => ?_) (fun _ => .of_blames (.bind_left (.blame _ _))) fun _ => ?_
    · have hchar {l l' : Literal} (h : l'.bare = l.bare) : l'.char = l.char :=
        (Literal.mk.inj h).1
      rw [hchar (hfirst i), hchar (hlast i)]
    · refine .pure ⟨h₄, fun i => ?_⟩
      simp only [SameClass, ClassTree.bare, hfirst, hlast]

/-! ### Brackets -/

/-- Members that are the same, places apart. -/
abbrev SameMembers (m m' : Members) : Prop := m'.bare = m.bare

theorem InStep.openingHyphens (h : Joined behind n s t) (hs : s.rest ≠ []) (start : Place)
    (start' : ι → Place) {m : ι → Nat} (hm : ∀ i, n ≤ m i) {members : Members}
    {members' : ι → Members} (hmembers : ∀ i, SameMembers members (members' i)) :
    InStep (openingHyphens start n members)
      (fun i => openingHyphens (start' i) (m i) (members' i)) s t fun a b s' t' =>
        s'.rest ≠ [] ∧ Agree behind n SameMembers a b s' t' := by
  induction n generalizing s t m members members' with
  | zero => exact absurd h.rest_eq_nil hs
  | succ n ih =>
    obtain ⟨m, rfl, hleft⟩ := exists_eq_succ hm
    simp only [Pattern.openingHyphens]
    refine .isNext h (by decide) (fun rest hcons => ?_) fun _ => .pure ⟨hs, h, hmembers⟩
    refine .step rfl (fun _ => rfl) (.advanceSkip h hs fun s₁ t₁ h₁ => ?_)
    refine .notAtEnd h₁ (.bind_left (.blame _ _)) fun hs₁ => ?_
    have hpush : ∀ i, SameMembers (members.push (.literal ⟨'-', s.nextSpan, false⟩))
        ((members' i).push (.literal ⟨'-', (t i).nextSpan, false⟩)) :=
      fun i => Members.bare_push (hmembers i) rfl
    refine (ih h₁ hs₁ hleft hpush).mono ?_
    rintro a b s' t' ⟨hs', h', hab⟩
    exact ⟨hs', h'.mono n.le_succ, hab⟩

/-- The members that are literal because they come first, behind the sign of negation. -/
private def firstMembers (start : Place) (negated : Bool) : Reading (Span × Bool × Members) := do
  let none := Members.none (← emptySpan)
  let hyphens ← openingHyphens start (← get).rest.length none
  let members ←
    if hyphens.items.isEmpty && (← next?) == some ']' then
      let item := ClassTree.literal ⟨']', ← nextSpan, false⟩
      advanceSkip
      if ← atEnd then blame .classUnclosed (← spanFrom start)
      pure (hyphens.push item)
    else pure hyphens
  return (← spanFrom start, negated, members)

private theorem openClass_eq : openClass = (do
    let start ← here
    advanceSkip
    if ← atEnd then blame .classUnclosed (← spanFrom start)
    let negated := (← next?) == some '^'
    if negated then
      advanceSkip
      if ← atEnd then blame .classUnclosed (← spanFrom start)
    firstMembers start negated) := rfl

/-- What an opening bracket comes to: whether the class is negated, and its first members. -/
private abbrev Opened (a b : Span × Bool × Members) : Prop :=
  b.2.1 = a.2.1 ∧ SameMembers a.2.2 b.2.2

private theorem InStep.firstMembers (h : Joined behind n s t) (hs : s.rest ≠ []) (start : Place)
    (start' : ι → Place) (negated : Bool) :
    InStep (firstMembers start negated) (fun i => firstMembers (start' i) negated) s t
      (Agree behind n Opened) := by
  have hleft : Joined behind s.rest.length s t := { h with length_le := le_rfl }
  simp only [Pattern.firstMembers]
  refine .step rfl (fun _ => rfl) (.step rfl (fun _ => rfl) ?_)
  have hnone : ∀ i, SameMembers (.none s.emptySpan) (.none (t i).emptySpan) := fun _ => rfl
  refine (InStep.openingHyphens hleft hs start start' h.length_eq hnone).bind ?_
  rintro hyphens hyphens' s₁ t₁ ⟨hs₁, h₁, hhyphens⟩
  refine .next? h₁ (fun c rest hcons => ?_) fun hnil => absurd hnil hs₁
  refine .ite (fun i => ?_) (fun _ => ?_) fun _ => ?_
  · rw [Members.isEmpty_items (hhyphens i)]
  · refine .step rfl (fun _ => rfl) ?_
    refine .advanceSkip ((h₁.mono h.length_le).mono n.le_succ) hs₁ fun s₂ t₂ h₂ => ?_
    refine .notAtEnd h₂ (.bind_right fun _ => .bind_left (.blame _ _)) fun _ => ?_
    refine .step rfl (fun _ => rfl) (.step rfl (fun _ => rfl) (.pure ⟨h₂, fun i => ⟨rfl, ?_⟩⟩))
    exact Members.bare_push (hhyphens i) rfl
  · refine .step rfl (fun _ => rfl) (.step rfl (fun _ => rfl) ?_)
    exact .pure ⟨h₁.mono h.length_le, fun i => ⟨rfl, hhyphens i⟩⟩

theorem InStep.openClass (h : Joined behind (n + 1) s t) (hs : s.rest ≠ []) :
    InStep openClass (fun _ => openClass) s t (Agree behind n Opened) := by
  simp only [openClass_eq]
  refine .step rfl (fun _ => rfl) (.advanceSkip h hs fun s₁ t₁ h₁ => ?_)
  refine .notAtEnd h₁ (.bind_right fun _ => .bind_left (.blame _ _)) fun hs₁ => ?_
  refine .next? h₁ (fun c rest hcons => ?_) fun hnil => absurd hnil hs₁
  refine .ite (fun _ => .rfl) (fun _ => ?_) fun _ => .firstMembers h₁ hs₁ _ _ _
  refine .advanceSkip (h₁.mono n.le_succ) hs₁ fun s₂ t₂ h₂ => ?_
  refine .notAtEnd h₂ (.bind_right fun _ => .bind_left (.blame _ _)) fun hs₂ => ?_
  exact .firstMembers h₂ hs₂ _ _ _

/-! ### Classes -/

/-- Stacks that are the same, places apart. -/
abbrev SameFrames (frames frames' : List ClassFrame) : Prop :=
  frames'.map ClassFrame.bare = frames.map ClassFrame.bare

private theorem exists_opened {outer : Members} {span : Span} {negated : Bool}
    {others frames : List ClassFrame}
    (h : SameFrames (.opened outer span negated :: others) frames) :
    ∃ outer' span' others', frames = .opened outer' span' negated :: others' ∧
      SameMembers outer outer' ∧ SameFrames others others' := by
  match frames with
  | [] => simp [SameFrames] at h
  | .operand _ _ :: _ => simp [SameFrames, ClassFrame.bare] at h
  | .opened outer' span' negated' :: others' =>
    simp only [SameFrames, List.map_cons, ClassFrame.bare, List.cons.injEq,
      ClassFrame.opened.injEq] at h
    obtain ⟨⟨houter, -, rfl⟩, hothers⟩ := h
    exact ⟨outer', span', others', rfl, houter, hothers⟩

/-- An operator does not go on into a detached text. -/
private theorem operationOf?_append {y : List Char} (hy : Detached y) (c : Char)
    (rest : List Char) : operationOf? c (rest ++ y).head? = operationOf? c rest.head? := by
  cases rest with
  | cons d rest => rfl
  | nil =>
    have hnone : operationOf? c none = none := by
      unfold operationOf?
      exact if_pos (by simp)
    rw [List.nil_append, List.head?_nil, hnone]
    unfold operationOf?
    by_cases hhead : y.head? = some c
    · obtain rfl | rfl := hy.head c hhead <;> rw [hhead] <;> rfl
    · rw [if_pos hhead]

private theorem ne_nil_of_operationOf? {c : Char} {rest : List Char} {kind : SetOperation}
    (h : operationOf? c rest.head? = some kind) : rest ≠ [] := by
  rintro rfl
  contradiction

section Body

variable {m : Nat} {m' : ι → Nat} {members : Members} {members' : ι → Members}
  {frames : List ClassFrame} {frames' : ι → List ClassFrame}

/-- So many more signs of a class are read in step, wherever it goes on. -/
private def BodyInStep (behind : ι → List Char) (n m : Nat) (m' : ι → Nat) : Prop :=
  ∀ {s : Source} {t : ι → Source}, Joined behind n s t →
    ∀ {members : Members} {members' : ι → Members}, (∀ i, SameMembers members (members' i)) →
    ∀ {frames : List ClassFrame} {frames' : ι → List ClassFrame},
      (∀ i, SameFrames frames (frames' i)) →
      InStep (classBody m members frames) (fun i => classBody (m' i) (members' i) (frames' i)) s t
        (Agree behind n SameTree)

/-- Goes on behind a named class or into an inner class. -/
private def innerClass (m : Nat) (members : Members) (frames : List ClassFrame) :
    Reading Tree := do
  match ← asciiClass? with
  | some item => classBody m (members.push item) frames
  | none =>
    let (span, negated, inner) ← openClass
    classBody m inner (.opened members span negated :: frames)

private theorem InStep.innerClass (h : Joined behind n s t) (hs : s.rest ≠ [])
    (ih : BodyInStep behind n m m') (hmembers : ∀ i, SameMembers members (members' i))
    (hframes : ∀ i, SameFrames frames (frames' i)) :
    InStep (innerClass m members frames) (fun i => innerClass (m' i) (members' i) (frames' i)) s t
      (Agree behind n SameTree) := by
  simp only [Pattern.innerClass]
  refine (InStep.asciiClass? h).bind fun item item' s₁ t₁ ⟨hsame, h₁, hitem⟩ => ?_
  cases item with
  | some item =>
    have hsome : ∀ i, ∃ x, item' i = some x ∧ SameClass item x := fun i => by simpa using hitem i
    choose x hx hsame using hsome
    simp only [hx]
    exact ih h₁ (fun i => Members.bare_push (hmembers i) (hsame i)) hframes
  | none =>
    have hnone : ∀ i, item' i = none := fun i => by simpa using hitem i
    simp only [hnone]
    obtain rfl : s₁ = s := hsame rfl
    refine (InStep.openClass (h₁.mono n.le_succ) hs).bind ?_
    rintro ⟨span, negated, inner⟩ opened s₂ t₂ ⟨h₂, hopened⟩
    refine ih h₂ (fun i => (hopened i).2) fun i => ?_
    have hnegated : (opened i).2.1 = negated := (hopened i).1
    simp only [SameFrames, List.map_cons, ClassFrame.bare, hmembers i, hframes i, hnegated]

/-- Ends the innermost class, given what is open around it. -/
private def endClass (m : Nat) (body : ClassTree) (frames : List ClassFrame) : Reading Tree := do
  match frames with
  | .opened outer span negated :: others =>
    advance
    let whole : Span := ⟨span.first, ← here⟩
    if others.isEmpty then return .bracketed whole negated body
    else classBody m (outer.push (.bracketed whole negated body)) others
  | _ => unclosedClass frames

private theorem InStep.endClass (h : Joined behind (n + 1) s t) (hs : s.rest ≠ [])
    (ih : BodyInStep behind n m m') {body : ClassTree} {body' : ι → ClassTree}
    (hbody : ∀ i, SameClass body (body' i)) (hframes : ∀ i, SameFrames frames (frames' i)) :
    InStep (endClass m body frames) (fun i => endClass (m' i) (body' i) (frames' i)) s t
      (Agree behind n SameTree) := by
  cases frames with
  | nil => exact .of_blames (.unclosedClass [])
  | cons frame others =>
  cases frame with
  | operand kind left => exact .of_blames (.unclosedClass _)
  | opened outer span negated =>
    choose outer' span' others' hframes' houter hothers using fun i => exists_opened (hframes i)
    have hempty : ∀ i, (others' i).isEmpty = others.isEmpty := by
      intro i
      rw [← List.isEmpty_map, hothers i, List.isEmpty_map]
    simp only [hframes', Pattern.endClass]
    refine .advance h hs fun s₁ t₁ h₁ => .step rfl (fun _ => rfl) ?_
    refine .ite (fun i => by rw [hempty i]) (fun _ => .pure ⟨h₁, fun i => ?_⟩) fun _ => ?_
    · simp only [SameTree, Tree.bare, hbody i]
    · refine ih h₁ (fun i => Members.bare_push (houter i) ?_) hothers
      simp only [ClassTree.bare, hbody i]

private theorem classBody_succ (m : Nat) (members : Members) (frames : List ClassFrame) :
    classBody (m + 1) members frames = (do
      skip
      let s ← get
      match s.rest with
      | [] => unclosedClass frames
      | '[' :: _ => innerClass m members frames
      | ']' :: _ =>
        let joined := joinOperand frames members.close
        endClass m joined.2 joined.1
      | c :: rest =>
        match operationOf? c rest.head? with
        | some kind => do
          advance
          advance
          let joined := joinOperand frames members.close
          classBody m (.none (← emptySpan)) (.operand kind joined.2 :: joined.1)
        | none => do classBody m (members.push (← classMember frames)) frames) := rfl

theorem InStep.classBody (h : Joined behind n s t) (hm : ∀ i, m ≤ m' i)
    (hmembers : ∀ i, SameMembers members (members' i))
    (hframes : ∀ i, SameFrames frames (frames' i)) :
    InStep (classBody m members frames) (fun i => classBody (m' i) (members' i) (frames' i)) s t
      (Agree behind n SameTree) := by
  induction m generalizing s t m' members members' frames frames' with
  | zero => exact .of_blames (.unclosedClass frames)
  | succ m ih =>
    obtain ⟨m', rfl, hleft⟩ := exists_eq_succ hm
    have hbody : BodyInStep behind n m m' := fun h _ _ hmembers _ _ => ih h hleft hmembers
    have hclose : ∀ i, SameClass members.close (members' i).close := fun i => by
      rw [SameClass, Members.bare_close, Members.bare_close, hmembers]
    have hjoin := fun i => bare_joinOperand (hframes i) (hclose i)
    simp only [classBody_succ]
    refine .skip h fun s₁ t₁ h₁ => .step rfl (fun _ => rfl) ?_
    cases hs₁ : s₁.rest with
    | nil => exact .of_blames (.unclosedClass frames)
    | cons c rest =>
      have hs₁' : s₁.rest ≠ [] := by simp [hs₁]
      simp only [h₁.of_cons hs₁]
      by_cases hopening : c = '['
      · subst hopening
        exact .innerClass h₁ hs₁' hbody hmembers hframes
      by_cases hclosing : c = ']'
      · subst hclosing
        exact .endClass (h₁.mono n.le_succ) hs₁' hbody (fun i => (hjoin i).2) fun i => (hjoin i).1
      simp only [operationOf?_append (h.detached _)]
      cases hoperation : operationOf? c rest.head? with
      | some kind =>
        have hlength : 2 ≤ s₁.rest.length := by
          have hpos := List.length_pos_iff.mpr (ne_nil_of_operationOf? hoperation)
          rw [hs₁, List.length_cons]
          omega
        have h₂ : Joined behind n s₁.advance.advance fun i => (t₁ i).advance.advance :=
          h₁.advanceBy hlength
        have hnone : ∀ i, SameMembers (.none s₁.advance.advance.emptySpan)
            (.none (t₁ i).advance.advance.emptySpan) := fun _ => rfl
        refine .step rfl (fun _ => rfl) (.step rfl (fun _ => rfl) (.step rfl (fun _ => rfl) ?_))
        refine hbody h₂ hnone fun i => ?_
        simp only [SameFrames, List.map_cons, ClassFrame.bare, (hjoin i).1, (hjoin i).2]
      | none =>
        refine (InStep.classMember (h₁.mono n.le_succ) frames frames').bind ?_
        rintro item item' s₂ t₂ ⟨h₂, hitem⟩
        exact hbody h₂ (fun i => Members.bare_push (hmembers i) (hitem i)) hframes

end Body

theorem InStep.bracketedClass (h : Joined behind (n + 1) s t) (hs : s.rest ≠ []) :
    InStep bracketedClass (fun _ => bracketedClass) s t (Agree behind n SameTree) := by
  simp only [Pattern.bracketedClass]
  refine .step rfl (fun _ => rfl) ((InStep.openClass h hs).bind ?_)
  rintro ⟨span, negated, members⟩ opened s₁ t₁ ⟨h₁, hopened⟩
  refine .step rfl (fun _ => rfl) ?_
  refine .classBody h₁ (fun i => Nat.succ_le_succ (h₁.length_eq i)) (fun i => (hopened i).2)
    fun i => ?_
  have hnegated : (opened i).2.1 = negated := (hopened i).1
  simp only [SameFrames, List.map_cons, ClassFrame.bare, hnegated]
  rfl

end Pattern

end Timekeeper
