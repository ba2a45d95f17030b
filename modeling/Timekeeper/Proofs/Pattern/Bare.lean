import Timekeeper.Pattern.Meaning

/-!
# Trees without their places

A tree carries the spans of the text that it was read from, and the same text read elsewhere
gives a tree with other spans. Without its spans a tree is **bare**. Spans only tell what is to
blame: what a tree means, how much it weighs and whether it lies too deep is said by the bare tree
alone (`Tree.plan_eq_ok_of_bare_eq`, `Tree.weight_of_bare_eq`, `Tree.checkDepth_eq_ok_of_bare_eq`).
-/

namespace Timekeeper

namespace Pattern

/-! ### Bare trees -/

/-- The span that stands for all spans. -/
def Span.nowhere : Span := ⟨.start, .start⟩

/-- A literal without its span. -/
def Literal.bare (l : Literal) : Literal := { l with span := .nowhere }

/-- A class without its spans. -/
def ClassTree.bare : ClassTree → ClassTree
  | nothing _ => nothing .nowhere
  | literal l => literal l.bare
  | range first last => range first.bare last.bare
  | ascii kind negated _ => ascii kind negated .nowhere
  | property query negated _ => property query negated .nowhere
  | short kind negated _ => short kind negated .nowhere
  | pair first second => pair first.bare second.bare
  | union _ members => union .nowhere members.bare
  | bracketed _ negated body => bracketed .nowhere negated body.bare
  | operation _ kind left right => operation .nowhere kind left.bare right.bare

/-- A tree without its spans. -/
def Tree.bare : Tree → Tree
  | empty => empty
  | flags changes => flags changes
  | literal l => literal l.bare
  | dot _ => dot .nowhere
  | anchor kind _ => anchor kind .nowhere
  | property query negated _ => property query negated .nowhere
  | short kind negated _ => short kind negated .nowhere
  | bracketed _ negated body => bracketed .nowhere negated body.bare
  | repetition _ least most greedy body => repetition .nowhere least most greedy body.bare
  | group _ kind body => group .nowhere kind body.bare
  | pair first second => pair first.bare second.bare
  | sequence _ members => sequence .nowhere members.bare
  | choice first second => choice first.bare second.bare
  | alternatives _ members => alternatives .nowhere members.bare

theorem ClassTree.bare_chain (first : ClassTree) (rest : List ClassTree) :
    (ClassTree.chain first rest).bare = ClassTree.chain first.bare (rest.map bare) := by
  induction rest generalizing first with
  | nil => rfl
  | cons second rest ih => simp only [chain, bare, List.map_cons, ih]

theorem Tree.bare_chain (first : Tree) (rest : List Tree) :
    (Tree.chain first rest).bare = Tree.chain first.bare (rest.map bare) := by
  induction rest generalizing first with
  | nil => rfl
  | cons second rest ih => simp only [chain, bare, List.map_cons, ih]

theorem Tree.bare_choices (first : Tree) (rest : List Tree) :
    (Tree.choices first rest).bare = Tree.choices first.bare (rest.map bare) := by
  induction rest generalizing first with
  | nil => rfl
  | cons second rest ih => simp only [choices, bare, List.map_cons, ih]

/-! ### What bare trees come to -/

section Answers

variable {ε α β : Type}

theorem toOption_bind (x : Except ε α) (f : α → Except ε β) :
    (x >>= f).toOption = x.toOption.bind fun a => (f a).toOption := by
  cases x <;> rfl

theorem toOption_ite {p : Prop} [Decidable p] (x y : Except ε α) :
    (if p then x else y).toOption = if p then x.toOption else y.toOption := by
  split <;> rfl

/-- An answer is the same where it is told apart from a failure only. -/
theorem eq_ok_iff_toOption {x : Except ε α} {a : α} : x = .ok a ↔ x.toOption = some a := by
  cases x <;> simp [Except.toOption]

theorem exists_eq_ok_iff_toOption {x : Except ε α} :
    (∃ a, x = .ok a) ↔ x.toOption.isSome = true := by
  simp only [Option.isSome_iff_exists, eq_ok_iff_toOption]

end Answers

section Meaning

variable {m : Mode}

private theorem toOption_throw {ε α : Type} (e : ε) :
    (throw e : Except ε α).toOption = none := rfl

private theorem toOption_scalar_bare (l : Literal) :
    (l.bare.scalar m).toOption = (l.scalar m).toOption := by
  change (if (!m.unicode && l.octet && 0x7f < l.char.toNat) = true then
    throw ⟨.invalidText, .nowhere, none⟩ else return l.char : Except Blame Char).toOption = _
  rw [Literal.scalar, toOption_ite, toOption_ite]
  rfl

private theorem toOption_member_bare (l : Literal) :
    (l.bare.member m).toOption = (l.member m).toOption := by
  simp only [Literal.member, toOption_bind, toOption_scalar_bare, toOption_ite, toOption_throw]

private theorem toOption_finishClass (span : Span) (negated : Bool) (test : Char → Bool) :
    (finishClass m .nowhere negated test).toOption =
      (finishClass m span negated test).toOption := by
  simp only [finishClass, toOption_ite, toOption_throw]

private theorem toOption_shortTest (kind : ShortClass) (negated : Bool) (span : Span) :
    (shortTest m kind negated .nowhere).toOption = (shortTest m kind negated span).toOption := by
  simp only [shortTest, toOption_ite, toOption_throw]

private theorem toOption_resolve (query : PropertyQuery) (span : Span) :
    (query.resolve m .nowhere).toOption = (query.resolve m span).toOption := by
  simp only [PropertyQuery.resolve, toOption_ite, toOption_throw]
  congr 1
  cases query <;> dsimp only <;> split <;> rfl

private theorem toOption_propertyTest (query : PropertyQuery) (negated : Bool) (span : Span) :
    (propertyTest m query negated .nowhere).toOption =
      (propertyTest m query negated span).toOption := by
  simp only [propertyTest, toOption_bind, toOption_resolve query span,
    toOption_finishClass span]

private theorem toOption_dotTest (span : Span) :
    (dotTest m .nowhere).toOption = (dotTest m span).toOption := by
  simp only [dotTest, toOption_ite, toOption_throw]

private theorem toOption_test_bare (t : ClassTree) :
    (t.bare.test m).toOption = (t.test m).toOption := by
  induction t with
  | nothing span => rfl
  | literal l => simp only [ClassTree.bare, ClassTree.test, toOption_bind, toOption_member_bare]
  | range first last =>
    simp only [ClassTree.bare, ClassTree.test, toOption_bind, toOption_member_bare]
  | ascii kind negated span => exact toOption_finishClass span negated _
  | property query negated span => exact toOption_propertyTest query negated span
  | short kind negated span => exact toOption_shortTest kind negated span
  | pair first second ih₁ ih₂ =>
    simp only [ClassTree.bare, ClassTree.test, toOption_bind, ih₁, ih₂]
  | union span members ih => exact ih
  | bracketed span negated body ih =>
    simp only [ClassTree.bare, ClassTree.test, toOption_bind, ih, toOption_finishClass span]
  | operation span kind left right ih₁ ih₂ =>
    simp only [ClassTree.bare, ClassTree.test, toOption_bind, ih₁, ih₂]

private theorem toOption_plan_bare (t : Tree) (m : Mode) :
    (t.bare.plan m).toOption = (t.plan m).toOption := by
  induction t generalizing m with
  | empty => rfl
  | flags changes => rfl
  | literal l => simp only [Tree.bare, Tree.plan, toOption_bind, toOption_scalar_bare]
  | dot span => simp only [Tree.bare, Tree.plan, toOption_bind, toOption_dotTest span]
  | anchor kind span => rfl
  | property query negated span =>
    simp only [Tree.bare, Tree.plan, toOption_bind, toOption_propertyTest query negated span]
  | short kind negated span =>
    simp only [Tree.bare, Tree.plan, toOption_bind, toOption_shortTest kind negated span]
  | bracketed span negated body =>
    simp only [Tree.bare, Tree.plan, toOption_bind, toOption_test_bare,
      toOption_finishClass span]
  | repetition span least most greedy body ih =>
    simp only [Tree.bare, Tree.plan, toOption_bind, ih]
  | group span kind body ih => simp only [Tree.bare, Tree.plan, toOption_bind, ih]
  | pair first second ih₁ ih₂ => simp only [Tree.bare, Tree.plan, toOption_bind, ih₁, ih₂]
  | sequence span members ih => exact ih m
  | choice first second ih₁ ih₂ => simp only [Tree.bare, Tree.plan, toOption_bind, ih₁, ih₂]
  | alternatives span members ih => exact ih m

private theorem toOption_deeper (depth : Nat) (span : Span) :
    (deeper depth .nowhere).toOption = (deeper depth span).toOption := by
  simp only [deeper, toOption_ite, toOption_throw]

private theorem toOption_classDepth_bare (t : ClassTree) (depth : Nat) :
    (t.bare.checkDepth depth).toOption = (t.checkDepth depth).toOption := by
  induction t generalizing depth with
  | pair first second ih₁ ih₂ =>
    simp only [ClassTree.bare, ClassTree.checkDepth, toOption_bind, ih₁, ih₂]
  | union span members ih =>
    simp only [ClassTree.bare, ClassTree.checkDepth, toOption_bind, ih, toOption_deeper _ span]
  | bracketed span negated body ih =>
    simp only [ClassTree.bare, ClassTree.checkDepth, toOption_bind, ih, toOption_deeper _ span]
  | operation span kind left right ih₁ ih₂ =>
    simp only [ClassTree.bare, ClassTree.checkDepth, toOption_bind, ih₁, ih₂,
      toOption_deeper _ span]
  | _ => rfl

private theorem toOption_checkDepth_bare (t : Tree) (depth : Nat) :
    (t.bare.checkDepth depth).toOption = (t.checkDepth depth).toOption := by
  induction t generalizing depth with
  | bracketed span negated body =>
    simp only [Tree.bare, Tree.checkDepth, toOption_bind, toOption_classDepth_bare,
      toOption_deeper _ span]
  | repetition span least most greedy body ih =>
    simp only [Tree.bare, Tree.checkDepth, toOption_bind, ih, toOption_deeper _ span]
  | group span kind body ih =>
    simp only [Tree.bare, Tree.checkDepth, toOption_bind, ih, toOption_deeper _ span]
  | pair first second ih₁ ih₂ =>
    simp only [Tree.bare, Tree.checkDepth, toOption_bind, ih₁, ih₂]
  | sequence span members ih =>
    simp only [Tree.bare, Tree.checkDepth, toOption_bind, ih, toOption_deeper _ span]
  | choice first second ih₁ ih₂ =>
    simp only [Tree.bare, Tree.checkDepth, toOption_bind, ih₁, ih₂]
  | alternatives span members ih =>
    simp only [Tree.bare, Tree.checkDepth, toOption_bind, ih, toOption_deeper _ span]
  | _ => rfl

private theorem weight_classBare (t : ClassTree) : t.bare.weight = t.weight := by
  induction t with
  | pair first second ih₁ ih₂ => simp only [ClassTree.bare, ClassTree.weight, ih₁, ih₂]
  | union span members ih => exact ih
  | bracketed span negated body ih => simp only [ClassTree.bare, ClassTree.weight, ih]
  | operation span kind left right ih₁ ih₂ =>
    simp only [ClassTree.bare, ClassTree.weight, ih₁, ih₂]
  | _ => rfl

private theorem weight_bare (t : Tree) : t.bare.weight = t.weight := by
  induction t with
  | bracketed span negated body => simp only [Tree.bare, Tree.weight, weight_classBare]
  | repetition span least most greedy body ih => simp only [Tree.bare, Tree.weight, ih]
  | group span kind body ih => simp only [Tree.bare, Tree.weight, ih]
  | pair first second ih₁ ih₂ => simp only [Tree.bare, Tree.weight, ih₁, ih₂]
  | sequence span members ih => exact ih
  | choice first second ih₁ ih₂ => simp only [Tree.bare, Tree.weight, ih₁, ih₂]
  | alternatives span members ih => simp only [Tree.bare, Tree.weight, ih]
  | _ => rfl

end Meaning

section Same

variable {t u : Tree}

/-- Trees that are the same without their spans have the same plan. -/
theorem Tree.plan_eq_ok_of_bare_eq (h : t.bare = u.bare) {m : Mode} {x : Plan × Mode}
    (ht : t.plan m = .ok x) : u.plan m = .ok x := by
  rw [eq_ok_iff_toOption] at ht ⊢
  rw [← toOption_plan_bare, ← h, toOption_plan_bare, ht]

theorem Tree.checkDepth_eq_ok_of_bare_eq (h : t.bare = u.bare) {depth : Nat}
    (ht : t.checkDepth depth = .ok ⟨⟩) : u.checkDepth depth = .ok ⟨⟩ := by
  rw [eq_ok_iff_toOption] at ht ⊢
  rw [← toOption_checkDepth_bare, ← h, toOption_checkDepth_bare, ht]

theorem Tree.weight_of_bare_eq (h : t.bare = u.bare) : t.weight = u.weight := by
  rw [← weight_bare, h, weight_bare]

end Same

end Pattern

end Timekeeper
