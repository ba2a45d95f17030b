import Timekeeper.Grammar.Basic
import Mathlib.Data.List.Forall2

/-!
# Reading patterns piece by piece

A part of a pattern is described by its plan, its size and its depth, a `Part`, and not by the
tree that the reader builds, which holds places in the pattern. A text **reads as** some parts
when the reader, wherever it stands, adds trees that yield these parts to the sequence it
reads. This is closed under joining texts, under a sign of repetition behind a text, and under
a group around one, so what a pattern comes to follows from its pieces.

The reader takes a number of steps along, which bounds how many it makes. A reading is stated
for any number that is large enough, and tells only that some number is left.
-/

namespace Timekeeper

namespace Pattern

/-! ### Steps of the reader -/

/-- A reading that goes on hands its answer to what follows. -/
theorem run_bind_ok {α β : Type} {x : Reading α} {f : α → Reading β} {s s' : Source} {a : α}
    (h : x.run s = .ok (a, s')) : (x >>= f).run s = (f a).run s' := by
  rw [StateT.run_bind, h]
  rfl

section Steps

variable {n : Nat} {r : Run} {frames : List Frame} {rest : List Char} {place : Place}
  {names : List (List Char × Span)}

theorem run_next? : next?.run ⟨rest, place, false, names⟩ =
    .ok (rest.head?, ⟨rest, place, false, names⟩) := rfl

theorem run_advance {c : Char} : advance.run ⟨c :: rest, place, false, names⟩ =
    .ok (⟨⟩, ⟨rest, place.after c, false, names⟩) := rfl

theorem run_nextSpan {c : Char} : nextSpan.run ⟨c :: rest, place, false, names⟩ =
    .ok (⟨place, place.after c⟩, ⟨c :: rest, place, false, names⟩) := rfl

/-- A character without a meaning of its own is read as itself. -/
theorem run_atom_of_not_isMeta {c : Char} (h : isMeta c = false) :
    atom.run ⟨c :: rest, place, false, names⟩ =
      .ok (.literal ⟨c, ⟨place, place.after c⟩, false⟩,
        ⟨rest, place.after c, false, names⟩) := by
  rw [atom, run_bind_ok run_nextSpan, run_bind_ok run_next?]
  split
  case h_1 => contradiction
  case h_2 => simp_all [isMeta]
  case h_3 hc =>
    cases hc
    rw [run_bind_ok run_advance]
    split <;> first | rfl | simp_all [isMeta]

/-- The reader adds such a character to the sequence it reads. -/
theorem run_patternBody_literal {c : Char} (h : isMeta c = false) :
    (patternBody (n + 1) r frames).run ⟨c :: rest, place, false, names⟩ =
      (patternBody n (r.push (.literal ⟨c, ⟨place, place.after c⟩, false⟩)) frames).run
        ⟨rest, place.after c, false, names⟩ := by
  have hskip : skip.run ⟨c :: rest, place, false, names⟩ =
      .ok (⟨⟩, ⟨c :: rest, place, false, names⟩) := rfl
  rw [patternBody, run_bind_ok hskip, run_bind_ok run_next?]
  split
  -- all other cases are for characters with a meaning
  case h_10 => rw [run_bind_ok (run_atom_of_not_isMeta h)]
  all_goals simp_all [isMeta]

theorem run_patternBody_space :
    (patternBody (n + 1) r frames).run ⟨'\\' :: 's' :: rest, place, false, names⟩ =
      (patternBody n (r.push (.short .space false
        ⟨place, (place.after '\\').after 's'⟩)) frames).run
        ⟨rest, (place.after '\\').after 's', false, names⟩ := rfl

theorem run_patternBody_bracket :
    (patternBody (n + 1) r frames).run ⟨'[' :: rest, place, false, names⟩ =
      (bracketedClass >>= fun t => patternBody n (r.push t) frames).run
        ⟨'[' :: rest, place, false, names⟩ := rfl

theorem run_patternBody_opening :
    (patternBody (n + 1) r frames).run ⟨'(' :: rest, place, false, names⟩ =
      (openGroup r frames >>= fun x => patternBody n x.1 x.2).run
        ⟨'(' :: rest, place, false, names⟩ := rfl

theorem run_patternBody_closing :
    (patternBody (n + 1) r frames).run ⟨')' :: rest, place, false, names⟩ =
      (closeGroup r frames >>= fun x => patternBody n x.1 x.2).run
        ⟨')' :: rest, place, false, names⟩ := rfl

theorem run_patternBody_bar :
    (patternBody (n + 1) r frames).run ⟨'|' :: rest, place, false, names⟩ =
      (nextAlternative r frames >>= fun x => patternBody n x.1 x.2).run
        ⟨'|' :: rest, place, false, names⟩ := rfl

/-- The three signs of repetition, with the counts they stand for. -/
def repetitionSigns : List (Char × Nat × Option Nat) :=
  [('?', 0, some 1), ('*', 0, none), ('+', 1, none)]

/-- A sign of repetition applies to the last member read. -/
theorem run_patternBody_repetition {sign : Char} {least : Nat} {most : Option Nat}
    (hsign : (sign, least, most) ∈ repetitionSigns) {first : Place} {t : Tree}
    {others : List Tree} (hempty : t ≠ .empty) (hflags : ∀ changes, t ≠ .flags changes)
    (hrest : rest.head? ≠ some '?') :
    ∃ span, (patternBody (n + 1) ⟨first, t :: others⟩ frames).run
        ⟨sign :: rest, place, false, names⟩ =
      (patternBody n ⟨first, .repetition span least most true t :: others⟩ frames).run
        ⟨rest, place.after sign, false, names⟩ := by
  have hrepeated : (repeated ⟨first, t :: others⟩).run ⟨sign :: rest, place, false, names⟩ =
      .ok ((t, ⟨first, others⟩), ⟨sign :: rest, place, false, names⟩) := by
    rw [repeated]
    split <;> simp_all
    rfl
  have hgreed : greedSign.run ⟨rest, place.after sign, false, names⟩ =
      .ok (true, ⟨rest, place.after sign, false, names⟩) := by
    rw [greedSign, run_bind_ok run_next?, if_neg hrest]
    rfl
  have hstep : (signRepetition least most ⟨first, t :: others⟩).run
      ⟨sign :: rest, place, false, names⟩ =
      .ok (⟨first, .repetition ⟨t.first, place.after sign⟩ least most true t :: others⟩,
        ⟨rest, place.after sign, false, names⟩) := by
    rw [signRepetition, run_bind_ok hrepeated]
    dsimp only
    rw [run_bind_ok run_advance, run_bind_ok hgreed]
    rfl
  refine ⟨⟨t.first, place.after sign⟩, ?_⟩
  have hbody : (patternBody (n + 1) ⟨first, t :: others⟩ frames).run
      ⟨sign :: rest, place, false, names⟩ =
      (signRepetition least most ⟨first, t :: others⟩ >>= fun r => patternBody n r frames).run
        ⟨sign :: rest, place, false, names⟩ := by
    simp only [repetitionSigns, List.mem_cons, Prod.mk.injEq, List.not_mem_nil, or_false] at hsign
    obtain ⟨rfl, rfl, rfl⟩ | ⟨rfl, rfl, rfl⟩ | ⟨rfl, rfl, rfl⟩ := hsign <;> rfl
  rw [hbody, run_bind_ok hstep]

end Steps

/-! ### What a part of a pattern comes to -/

/-- The mode behind the flags in front of every marker. -/
def Mode.marker : Mode := ⟨true, false, true, false, true, false⟩

/-- What a part of a pattern comes to: its plan, its size, and how deep it is nested. -/
structure Part where
  plan : Plan
  weight : Nat
  height : Nat

namespace Part

/-- A single character. -/
def literal (c : Char) : Part := ⟨.one (Mode.marker.single c), 80, 0⟩

/-- A part repeated greedily. -/
def repeated (least : Nat) (most : Option Nat) (p : Part) : Part where
  plan := .repeated least most true p.plan
  weight :=
    match most with
    | none => p.weight * max 1 least + 96
    | some most => p.weight * least + (p.weight + 40) * (most - least) + 32
  height := p.height + 1

/-- One part behind another. -/
def pair (p q : Part) : Part :=
  ⟨.sequence p.plan q.plan, p.weight + q.weight, max p.height q.height⟩

/-- One part or another. -/
def choice (p q : Part) : Part :=
  ⟨p.plan.or q.plan, p.weight + q.weight + 8, max p.height q.height⟩

/-- Parts behind one another. -/
def chain (p : Part) : List Part → Part
  | [] => p
  | q :: rest => pair p (chain q rest)

/-- Parts behind one another are nested as deep as the deepest of them. -/
theorem height_chain_le {n : Nat} {p : Part} {ps : List Part} (hp : p.height ≤ n)
    (hps : ∀ q ∈ ps, q.height ≤ n) : (p.chain ps).height ≤ n := by
  induction ps generalizing p with
  | nil => exact hp
  | cons q ps ih =>
    exact Nat.max_le.mpr ⟨hp, ih (hps q List.mem_cons_self) fun r hr =>
      hps r (List.mem_cons_of_mem _ hr)⟩

/-- Parts of which one is to match. -/
def choices (p : Part) : List Part → Part
  | [] => p
  | q :: rest => choice p (choices q rest)

/-- One level deeper. -/
def inside (p : Part) : Part := { p with height := p.height + 1 }

/-- A sequence of parts. A sequence of one part is that part. -/
def sequence (p : Part) : List Part → Part
  | [] => p
  | q :: rest => (chain p (q :: rest)).inside

/-- A part in a group. -/
def group (kind : GroupKind) (p : Part) : Part := ⟨kind.plan p.plan, p.weight + 64, p.height + 1⟩

/-- Parts of which one is to match, in one alternation. -/
def alternatives (p : Part) (rest : List Part) : Part :=
  ⟨(choices p rest).plan, (choices p rest).weight + 64, (choices p rest).height + 1⟩

end Part

/-- Within the limit every level leads one level deeper. -/
theorem deeper_eq {depth height : Nat} {span : Span}
    (h : depth + (height + 1) ≤ nestingLimit) : deeper depth span = .ok (depth + 1) := by
  rw [deeper, if_neg (by omega)]
  rfl

/-- A tree **yields** a part when this is what it comes to in the mode of markers. Something
to which a repetition can apply always has this form. -/
structure Tree.Yields (t : Tree) (p : Part) : Prop where
  plan_eq : t.plan .marker = .ok (p.plan, .marker)
  weight_eq : t.weight = p.weight
  checkDepth_eq : ∀ depth, depth + p.height ≤ nestingLimit → t.checkDepth depth = .ok ⟨⟩
  ne_empty : t ≠ .empty
  ne_flags : ∀ changes, t ≠ .flags changes

namespace Tree.Yields

variable {t u : Tree} {p q : Part} {ts : List Tree} {ps : List Part}

theorem literal (l : Literal) (h : l.octet = false) :
    (Tree.literal l).Yields (.literal l.char) := by
  obtain ⟨c, span, octet⟩ := l
  obtain rfl : octet = false := h
  exact ⟨rfl, rfl, fun _ _ => rfl, by simp, by simp⟩

theorem repetition (h : t.Yields p) (span : Span) (least : Nat) (most : Option Nat) :
    (Tree.repetition span least most true t).Yields (p.repeated least most) where
  plan_eq := by
    rw [Tree.plan, h.plan_eq]
    rfl
  weight_eq := by cases most <;> simp [Tree.weight, Part.repeated, h.weight_eq]
  checkDepth_eq depth hd := by
    rw [Tree.checkDepth, deeper_eq hd]
    exact h.checkDepth_eq _ (by simp only [Part.repeated] at hd; omega)
  ne_empty := by simp
  ne_flags := by simp

theorem pair (ht : t.Yields p) (hu : u.Yields q) : (Tree.pair t u).Yields (p.pair q) where
  plan_eq := by
    simp only [Tree.plan, ht.plan_eq]
    change (u.plan .marker >>= _) = _
    rw [hu.plan_eq]
    rfl
  weight_eq := by simp [Tree.weight, Part.pair, ht.weight_eq, hu.weight_eq]
  checkDepth_eq depth hd := by
    simp only [Part.pair] at hd
    rw [Tree.checkDepth, ht.checkDepth_eq _ (by omega)]
    exact hu.checkDepth_eq _ (by omega)
  ne_empty := by simp
  ne_flags := by simp

theorem choice (ht : t.Yields p) (hu : u.Yields q) : (Tree.choice t u).Yields (p.choice q) where
  plan_eq := by
    simp only [Tree.plan, ht.plan_eq]
    change (u.plan .marker >>= _) = _
    rw [hu.plan_eq]
    rfl
  weight_eq := by simp [Tree.weight, Part.choice, ht.weight_eq, hu.weight_eq]
  checkDepth_eq depth hd := by
    simp only [Part.choice] at hd
    rw [Tree.checkDepth, ht.checkDepth_eq _ (by omega)]
    exact hu.checkDepth_eq _ (by omega)
  ne_empty := by simp
  ne_flags := by simp

theorem chain (ht : t.Yields p) (hts : List.Forall₂ Tree.Yields ts ps) :
    (Tree.chain t ts).Yields (p.chain ps) := by
  induction hts generalizing t p with
  | nil => exact ht
  | cons hu _ ih => exact ht.pair (ih hu)

theorem choices (ht : t.Yields p) (hts : List.Forall₂ Tree.Yields ts ps) :
    (Tree.choices t ts).Yields (p.choices ps) := by
  induction hts generalizing t p with
  | nil => exact ht
  | cons hu _ ih => exact ht.choice (ih hu)

theorem sequence (ht : t.Yields p) (span : Span) : (Tree.sequence span t).Yields p.inside where
  plan_eq := ht.plan_eq
  weight_eq := ht.weight_eq
  checkDepth_eq depth hd := by
    rw [Tree.checkDepth, deeper_eq hd]
    exact ht.checkDepth_eq _ (by simp only [Part.inside] at hd; omega)
  ne_empty := by simp
  ne_flags := by simp

theorem alternatives (ht : t.Yields p) (hts : List.Forall₂ Tree.Yields ts ps) (span : Span) :
    (Tree.alternatives span (Tree.choices t ts)).Yields (p.alternatives ps) where
  plan_eq := (ht.choices hts).plan_eq
  weight_eq := by rw [Tree.weight, (ht.choices hts).weight_eq]; rfl
  checkDepth_eq depth hd := by
    rw [Tree.checkDepth, deeper_eq hd]
    exact (ht.choices hts).checkDepth_eq _ (by simp only [Part.alternatives] at hd; omega)
  ne_empty := by simp
  ne_flags := by simp

/-- A group that changes no flag. -/
theorem group (ht : t.Yields p) (span : Span) {kind : GroupKind} (hkind : kind.changes = []) :
    (Tree.group span kind t).Yields (p.group kind) where
  plan_eq := by
    rw [Tree.plan, hkind]
    change (t.plan .marker >>= _) = _
    rw [ht.plan_eq]
    rfl
  weight_eq := by rw [Tree.weight, ht.weight_eq]; rfl
  checkDepth_eq depth hd := by
    rw [Tree.checkDepth, deeper_eq hd]
    exact ht.checkDepth_eq _ (by simp only [Part.group] at hd; omega)
  ne_empty := by simp
  ne_flags := by simp

/-- What a sequence comes to when it ends. -/
theorem close (ht : t.Yields p) (hts : List.Forall₂ Tree.Yields ts ps) (first last : Place) :
    (Run.close ⟨first, (t :: ts).reverse⟩ last).Yields (p.sequence ps) := by
  rw [Run.close, List.reverse_reverse]
  cases hts with
  | nil => exact ht
  | cons hu hus => exact (ht.chain (.cons hu hus)).sequence _

end Tree.Yields

/-! ### Reading a piece of a pattern -/

/-- A text **reads as** one part when the reader, wherever it stands, adds a tree that yields
this part to the sequence it reads, whatever follows. The lists hold the names of the groups
read before and behind the text. -/
def ReadsOne (before : List (List Char)) (text : List Char) (p : Part)
    (behind : List (List Char)) : Prop :=
  ∀ (n : Nat) (r : Run) (frames : List Frame) (rest : List Char) (place : Place)
    (names : List (List Char × Span)), names.map Prod.fst = before →
    ∃ (m : Nat) (t : Tree) (place' : Place) (names' : List (List Char × Span)),
      names'.map Prod.fst = behind ∧ t.Yields p ∧
      (patternBody (n + text.length) r frames).run ⟨text ++ rest, place, false, names⟩ =
        (patternBody (n + m) (r.push t) frames).run ⟨rest, place', false, names'⟩

/-- A text that does not go on with a sign that would belong to what stands before it. -/
def Calm (rest : List Char) : Prop := rest.head? ≠ some '?'

theorem Calm.append {x y : List Char} (hx : Calm x) (hy : Calm y) : Calm (x ++ y) := by
  cases x with
  | nil => exact hy
  | cons c x => exact hx

/-- Several parts, where what follows does not belong to the last one. -/
def ReadsAs (before : List (List Char)) (text : List Char) (parts : List Part)
    (behind : List (List Char)) : Prop :=
  ∀ (n : Nat) (r : Run) (frames : List Frame) (rest : List Char) (place : Place)
    (names : List (List Char × Span)), Calm rest → names.map Prod.fst = before →
    ∃ (m : Nat) (trees : List Tree) (place' : Place) (names' : List (List Char × Span)),
      names'.map Prod.fst = behind ∧ List.Forall₂ Tree.Yields trees parts ∧
      (patternBody (n + text.length) r frames).run ⟨text ++ rest, place, false, names⟩ =
        (patternBody (n + m) ⟨r.first, trees.reverse ++ r.members⟩ frames).run
          ⟨rest, place', false, names'⟩

section Pieces

variable {before between behind : List (List Char)} {x y z : List Char} {p : Part}
  {ps qs : List Part}

theorem ReadsOne.readsAs (h : ReadsOne before z p behind) : ReadsAs before z [p] behind := by
  intro n r frames rest place names _ hnames
  obtain ⟨m, t, place', names', hnames', ht, hrun⟩ := h n r frames rest place names hnames
  exact ⟨m, [t], place', names', hnames', .cons ht .nil, hrun⟩

theorem ReadsAs.nil : ReadsAs before [] [] before := by
  intro n r frames rest place names _ hnames
  exact ⟨0, [], place, names, hnames, .nil, rfl⟩

theorem ReadsAs.append (hx : ReadsAs before x ps between) (hy : ReadsAs between y qs behind)
    (hcalm : Calm y) : ReadsAs before (x ++ y) (ps ++ qs) behind := by
  intro n r frames rest place names hrest hnames
  -- the steps for the second text are left when the first one has been read
  obtain ⟨m, ts, place₁, names₁, hnames₁, hts, h₁⟩ :=
    hx (n + y.length) r frames (y ++ rest) place names (hcalm.append hrest) hnames
  obtain ⟨m', us, place₂, names₂, hnames₂, hus, h₂⟩ :=
    hy (n + m) ⟨r.first, ts.reverse ++ r.members⟩ frames rest place₁ names₁ hrest hnames₁
  refine ⟨m + m', ts ++ us, place₂, names₂, hnames₂, List.rel_append hts hus, ?_⟩
  rw [List.append_assoc, List.length_append, Nat.add_comm x.length, ← Nat.add_assoc, h₁,
    Nat.add_right_comm, h₂]
  simp only [List.reverse_append, List.append_assoc, Nat.add_assoc]

/-! ### Characters -/

theorem ReadsOne.literal {c : Char} (h : isMeta c = false) :
    ReadsOne before [c] (.literal c) before := by
  intro n r frames rest place names hnames
  exact ⟨0, _, place.after c, names, hnames, .literal ⟨c, _, false⟩ rfl,
    run_patternBody_literal h⟩

theorem calm_of_not_isMeta (h : ∀ c ∈ z, isMeta c = false) : Calm z := by
  cases z with
  | nil => simp [Calm]
  | cons c z =>
    have hc : isMeta c = false := h c List.mem_cons_self
    rw [Calm, List.head?_cons, ne_eq, Option.some.injEq]
    rintro rfl
    revert hc
    decide

/-- Characters without a meaning of their own read as themselves. -/
theorem ReadsAs.literals (h : ∀ c ∈ z, isMeta c = false) :
    ReadsAs before z (z.map .literal) before := by
  induction z with
  | nil => exact .nil
  | cons c z ih =>
    have htext : ∀ d ∈ z, isMeta d = false := fun d hd => h d (List.mem_cons_of_mem _ hd)
    exact (ReadsOne.literal (h c List.mem_cons_self)).readsAs.append (ih htext)
      (calm_of_not_isMeta htext)

/-- The white space class. -/
theorem ReadsOne.space :
    ReadsOne before ['\\', 's'] ⟨.one fun c => ShortClass.holds true c .space, 700, 0⟩ before := by
  intro n r frames rest place names hnames
  let behind := (place.after '\\').after 's'
  exact ⟨1, .short .space false ⟨place, behind⟩, behind, names, hnames,
    ⟨rfl, rfl, fun _ _ => rfl, by simp, by simp⟩, run_patternBody_space⟩

/-- A class between brackets. -/
theorem ReadsOne.bracketed {test : Char → Bool} {weight height : Nat}
    (h : ∀ rest place names, ∃ span body place',
      bracketedClass.run ⟨'[' :: x ++ rest, place, false, names⟩ =
        .ok (.bracketed span false body, ⟨rest, place', false, names⟩) ∧
      body.test .marker = .ok test ∧ body.weight = weight ∧
      ∀ depth, depth + height ≤ nestingLimit → body.checkDepth depth = .ok ⟨⟩) :
    ReadsOne before ('[' :: x) ⟨.one (Mode.marker.folded test), weight + 64, height + 1⟩
      before := by
  intro n r frames rest place names hnames
  obtain ⟨span, body, place', hrun, htest, hweight, hdepth⟩ := h rest place names
  refine ⟨x.length, .bracketed span false body, place', names, hnames,
    ⟨?_, ?_, ?_, by simp, by simp⟩, ?_⟩
  · rw [Tree.plan, htest]
    rfl
  · rw [Tree.weight, hweight]
    rfl
  · intro depth hd
    rw [Tree.checkDepth, deeper_eq hd]
    exact hdepth _ (by simp only at hd; omega)
  · rw [List.length_cons, ← Nat.add_assoc]
    change (patternBody (n + x.length + 1) r frames).run ⟨'[' :: (x ++ rest), _, _, _⟩ = _
    rw [run_patternBody_bracket, ← List.cons_append, run_bind_ok hrun]

/-! ### Repetitions and groups -/

/-- A sign of repetition behind a part. -/
theorem ReadsOne.repeated {sign : Char} {least : Nat} {most : Option Nat}
    (h : ReadsOne before z p behind) (hsign : (sign, least, most) ∈ repetitionSigns) :
    ReadsAs before (z ++ [sign]) [p.repeated least most] behind := by
  intro n r frames rest place names hrest hnames
  obtain ⟨m, t, place', names', hnames', ht, hrun⟩ :=
    h (n + 1) r frames (sign :: rest) place names hnames
  obtain ⟨span, hstep⟩ : ∃ span, (patternBody (n + m + 1) (r.push t) frames).run
      ⟨sign :: rest, place', false, names'⟩ =
    (patternBody (n + m) ⟨r.first, .repetition span least most true t :: r.members⟩ frames).run
      ⟨rest, place'.after sign, false, names'⟩ :=
    run_patternBody_repetition hsign ht.ne_empty ht.ne_flags hrest
  refine ⟨m, [_], place'.after sign, names', hnames',
    .cons (ht.repetition span least most) .nil, ?_⟩
  rw [List.append_assoc, List.length_append, List.length_singleton, Nat.add_comm z.length,
    ← Nat.add_assoc, List.singleton_append, hrun, Nat.add_right_comm]
  exact hstep

/-- The sign for any character, repeated lazily. -/
theorem ReadsAs.lazyDots :
    ReadsAs before ['.', '*', '?'] [⟨.repeated 0 none false (.one fun _ => true), 596, 1⟩]
      before := by
  intro n r frames rest place names _ hnames
  let dot := Tree.dot ⟨place, place.after '.'⟩
  let behind := ((place.after '.').after '*').after '?'
  refine ⟨1, [.repetition ⟨place, behind⟩ 0 none false dot], behind, names, hnames,
    .cons ⟨rfl, rfl, ?_, by simp, by simp⟩ .nil, rfl⟩
  intro depth hd
  rw [Tree.checkDepth, deeper_eq hd]
  rfl

/-- What opens a group: the reader starts a sequence and keeps the interrupted one. -/
def Opens (before : List (List Char)) (z : List Char) (kind : GroupKind)
    (behind : List (List Char)) : Prop :=
  ∀ (r : Run) (frames : List Frame) (rest : List Char) (place : Place)
    (names : List (List Char × Span)), names.map Prod.fst = before →
    ∃ (opened : Span) (place' : Place) (names' : List (List Char × Span)),
      names'.map Prod.fst = behind ∧
      (openGroup r frames).run ⟨'(' :: z ++ rest, place, false, names⟩ =
        .ok ((.startingAt place', .group r opened kind false :: frames),
          ⟨rest, place', false, names'⟩)

theorem opens_plain : Opens before ['?', ':'] (.plain []) before := by
  intro r frames rest place names hnames
  exact ⟨⟨place, place.after '('⟩, ((place.after '(').after '?').after ':', names, hnames, rfl⟩

theorem opens_value : Opens [] "?P<value>".toList (.named Grammar.valueName.toList)
    [Grammar.valueName.toList] := by
  intro r frames rest place names hnames
  obtain rfl : names = [] := List.map_eq_nil_iff.mp hnames
  exact ⟨_, _, [(_, _)], rfl, rfl⟩

theorem opens_unit : Opens [Grammar.valueName.toList] "?P<unit>".toList
    (.named Grammar.unitName.toList) [Grammar.unitName.toList, Grammar.valueName.toList] := by
  intro r frames rest place names hnames
  obtain ⟨⟨name, span⟩, rfl, hname⟩ := List.map_eq_singleton_iff.mp hnames
  obtain rfl : name = Grammar.valueName.toList := hname
  exact ⟨_, _, [(_, _), (_, _)], rfl, rfl⟩

theorem run_closeGroup {r outer : Run} {opened : Span} {kind : GroupKind} {frames : List Frame}
    {rest : List Char} {place : Place} {names : List (List Char × Span)} :
    (closeGroup r (.group outer opened kind false :: frames)).run
        ⟨')' :: rest, place, false, names⟩ =
      .ok ((outer.push (.group ⟨opened.first, place.after ')'⟩ kind (r.close place)), frames),
        ⟨rest, place.after ')', false, names⟩) := rfl

theorem run_closeGroup_alternatives {r outer : Run} {opened : Span} {kind : GroupKind}
    {frames : List Frame} {rest : List Char} {place first : Place}
    {names : List (List Char × Span)} {branches ts : List Tree} {t : Tree}
    (h : (r.close place :: branches).reverse = t :: ts) :
    (closeGroup r (.alternatives first branches :: .group outer opened kind false :: frames)).run
        ⟨')' :: rest, place, false, names⟩ =
      .ok ((outer.push (.group ⟨opened.first, place.after ')'⟩ kind
          (.alternatives ⟨first, place⟩ (Tree.choices t ts))), frames),
        ⟨rest, place.after ')', false, names⟩) := by
  have hclose : closeAlternatives r
      (.alternatives first branches :: .group outer opened kind false :: frames) place =
      (.alternatives ⟨first, place⟩ (Tree.choices t ts),
        .group outer opened kind false :: frames) := by
    simp only [closeAlternatives, h]
  have hhere : here.run ⟨')' :: rest, place, false, names⟩ =
      .ok (place, ⟨')' :: rest, place, false, names⟩) := rfl
  rw [closeGroup, run_bind_ok run_nextSpan, run_bind_ok hhere, hclose]
  rfl

/-- A group around a sequence. -/
theorem ReadsOne.group {kind : GroupKind} (hkind : kind.changes = [])
    (ho : Opens before x kind between) (h : ReadsAs between y (p :: ps) behind) :
    ReadsOne before ('(' :: x ++ y ++ [')']) ((p.sequence ps).group kind) behind := by
  intro n r frames rest place names hnames
  obtain ⟨opened, place₁, names₁, hnames₁, hopen⟩ :=
    ho r frames (y ++ ')' :: rest) place names hnames
  -- inside the group the reader has a sequence of its own, on top of the interrupted one
  obtain ⟨m, trees, place₂, names₂, hnames₂, hts, hbody⟩ := h (n + x.length + 1)
    (.startingAt place₁) (.group r opened kind false :: frames) (')' :: rest) place₁ names₁
    (by simp [Calm]) hnames₁
  cases hts with
  | cons ht hts =>
  rename_i t ts
  have hclosed := ht.close hts place₁ place₂
  refine ⟨x.length + m, _, place₂.after ')', names₂, hnames₂,
    hclosed.group ⟨opened.first, place₂.after ')'⟩ hkind, ?_⟩
  have hlength : n + ('(' :: x ++ y ++ [')']).length = n + x.length + 1 + y.length + 1 := by
    simp only [List.length_append, List.length_cons, List.length_nil]
    omega
  have htext : '(' :: x ++ y ++ [')'] ++ rest = '(' :: (x ++ (y ++ ')' :: rest)) := by simp
  rw [hlength, htext, run_patternBody_opening, ← List.cons_append, run_bind_ok hopen, hbody,
    Nat.add_right_comm _ 1 m, run_patternBody_closing, run_bind_ok run_closeGroup,
    Nat.add_assoc]
  simp only [Run.startingAt, List.append_nil]

/-- Sequences with bars between them, each with what it comes to. -/
inductive Branches (names : List (List Char)) : List Char → List Part → Prop
  | last {x : List Char} {p : Part} {ps : List Part} (h : ReadsAs names x (p :: ps) names) :
    Branches names x [p.sequence ps]
  | cons {x y : List Char} {p : Part} {ps qs : List Part} (h : ReadsAs names x (p :: ps) names)
    (rest : Branches names y qs) : Branches names (x ++ '|' :: y) (p.sequence ps :: qs)

/-- Reading branches behind a bar: the branches before them are kept, the last first. -/
theorem Branches.run {names : List (List Char)} {y : List Char} {qs : List Part}
    (h : Branches names y qs) (n : Nat) (first : Place) (frames : List Frame) (rest : List Char)
    (hrest : Calm rest) (place : Place) (used : List (List Char × Span))
    (hused : used.map Prod.fst = names) (branches : List Tree) {earlier : List Part}
    (hbranches : List.Forall₂ Tree.Yields branches.reverse earlier) :
    ∃ m r' branches' place' used', used'.map Prod.fst = names ∧
      (patternBody (n + y.length) (.startingAt place) (.alternatives first branches :: frames)).run
          ⟨y ++ rest, place, false, used⟩ =
        (patternBody (n + m) r' (.alternatives first branches' :: frames)).run
          ⟨rest, place', false, used'⟩ ∧
      List.Forall₂ Tree.Yields (r'.close place' :: branches').reverse (earlier ++ qs) := by
  induction h generalizing n place used branches earlier with
  | last h =>
    obtain ⟨m, ts, place', used', hused', hts, hrun⟩ :=
      h n (.startingAt place) (.alternatives first branches :: frames) rest place used hrest hused
    refine ⟨m, _, branches, place', used', hused', hrun, ?_⟩
    cases hts with
    | cons ht hts =>
    rw [List.reverse_cons]
    refine List.rel_append hbranches (.cons ?_ .nil)
    simpa only [Run.startingAt, List.append_nil] using ht.close hts place place'
  | @cons x y p ps qs h _ ih =>
    obtain ⟨m, ts, place₁, used₁, hused₁, hts, hrun⟩ :=
      h (n + y.length + 1) (.startingAt place) (.alternatives first branches :: frames)
        ('|' :: y ++ rest) place used (by simp [Calm]) hused
    cases hts with
    | cons ht hts =>
    rename_i t ts
    have hclosed := ht.close hts place place₁
    -- the branch that the bar ends is kept, and the reader starts the next one
    have hbranches' : List.Forall₂ Tree.Yields
        ((Run.close ⟨place, (t :: ts).reverse⟩ place₁ :: branches).reverse)
        (earlier ++ [p.sequence ps]) := by
      rw [List.reverse_cons]
      exact List.rel_append hbranches (.cons hclosed .nil)
    obtain ⟨m', r', branches', place', used', hused', hrun', hyields⟩ :=
      ih (n + m) (place₁.after '|') used₁ hused₁ _ hbranches'
    refine ⟨m + m', r', branches', place', used', hused', ?_, by simpa using hyields⟩
    have hbar : (nextAlternative ⟨place, (t :: ts).reverse⟩
        (.alternatives first branches :: frames)).run
          ⟨'|' :: y ++ rest, place₁, false, used₁⟩ =
        .ok ((.startingAt (place₁.after '|'), .alternatives first
          (Run.close ⟨place, (t :: ts).reverse⟩ place₁ :: branches) :: frames),
          ⟨y ++ rest, place₁.after '|', false, used₁⟩) := rfl
    have hlength : n + (x ++ '|' :: y).length = n + y.length + 1 + x.length := by
      simp only [List.length_append, List.length_cons]
      omega
    rw [hlength, List.append_assoc, hrun]
    simp only [Run.startingAt, List.append_nil]
    rw [show n + y.length + 1 + m = n + m + y.length + 1 by omega, List.cons_append,
      run_patternBody_bar, ← List.cons_append, run_bind_ok hbar, hrun', Nat.add_assoc]

/-- A group around several branches. -/
theorem ReadsOne.alternatives {kind : GroupKind} (hkind : kind.changes = [])
    (ho : Opens before x kind between) (h : ReadsAs between y (p :: ps) between)
    (hs : Branches between z qs) :
    ReadsOne before ('(' :: x ++ y ++ '|' :: z ++ [')'])
      (((p.sequence ps).alternatives qs).group kind) between := by
  intro n r frames rest place names hnames
  obtain ⟨opened, place₁, names₁, hnames₁, hopen⟩ :=
    ho r frames (y ++ '|' :: z ++ ')' :: rest) place names hnames
  obtain ⟨m, trees, place₂, names₂, hnames₂, hts, hbody⟩ := h (n + x.length + z.length + 2)
    (.startingAt place₁) (.group r opened kind false :: frames) ('|' :: z ++ ')' :: rest) place₁
    names₁ (by simp [Calm]) hnames₁
  cases hts with
  | cons ht hts =>
  rename_i t ts
  have hclosed := ht.close hts place₁ place₂
  -- the first bar makes the sequence the first branch, and the other branches follow it
  obtain ⟨m', r', branches, place₃, names₃, hnames₃, hrun, hyields⟩ :=
    hs.run (n + x.length + m + 1) place₁ (.group r opened kind false :: frames) (')' :: rest)
      (by simp [Calm]) (place₂.after '|') names₂ hnames₂
      [Run.close ⟨place₁, (t :: ts).reverse⟩ place₂] (.cons hclosed .nil)
  obtain ⟨t', ts', ht', hts', hreverse⟩ := List.forall₂_cons_right_iff.mp hyields
  refine ⟨x.length + m + m', _, place₃.after ')', names₃, hnames₃,
    (ht'.alternatives hts' ⟨place₁, place₃⟩).group ⟨opened.first, place₃.after ')'⟩ hkind, ?_⟩
  have hbar : (nextAlternative ⟨place₁, (t :: ts).reverse⟩
      (.group r opened kind false :: frames)).run
        ⟨'|' :: z ++ ')' :: rest, place₂, false, names₂⟩ =
      .ok ((.startingAt (place₂.after '|'), .alternatives place₁
        [Run.close ⟨place₁, (t :: ts).reverse⟩ place₂] :: .group r opened kind false :: frames),
        ⟨z ++ ')' :: rest, place₂.after '|', false, names₂⟩) := rfl
  have hlength : n + ('(' :: x ++ y ++ '|' :: z ++ [')']).length =
      n + x.length + z.length + 2 + y.length + 1 := by
    simp only [List.length_append, List.length_cons, List.length_nil]
    omega
  have htext : '(' :: x ++ y ++ '|' :: z ++ [')'] ++ rest =
      '(' :: (x ++ (y ++ ('|' :: z ++ ')' :: rest))) := by simp
  have hopen' : (openGroup r frames).run
      ⟨'(' :: (x ++ (y ++ ('|' :: z ++ ')' :: rest))), place, false, names⟩ =
      .ok ((.startingAt place₁, .group r opened kind false :: frames),
        ⟨y ++ ('|' :: z ++ ')' :: rest), place₁, false, names₁⟩) := by
    simpa only [List.cons_append, List.append_assoc] using hopen
  rw [hlength, htext, run_patternBody_opening, run_bind_ok hopen', hbody]
  simp only [Run.startingAt, List.append_nil]
  rw [show n + x.length + z.length + 2 + m = n + x.length + m + 1 + z.length + 1 by omega,
    List.cons_append, run_patternBody_bar, ← List.cons_append, run_bind_ok hbar, hrun,
    show n + x.length + m + 1 + m' = n + (x.length + m + m') + 1 by omega,
    run_patternBody_closing, run_bind_ok (run_closeGroup_alternatives hreverse)]

end Pieces

end Pattern

end Timekeeper
