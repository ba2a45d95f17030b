import Timekeeper.Pattern.Plan
import Mathlib.Data.List.Basic
import Mathlib.Data.List.Infix

/-!
# Runs of the plans of measurements

Equations for `Plan.run` on the few plans that the tail of a measurement is made of. Running
a plan hands every way of matching to a **goal**, so an equation is stated for all goals, and
what follows a repetition is part of its statement.

A greedy repetition of one character could stop early, and the goal behind it would be tried
there too. Where that goal **rejects** the characters that are repeated, stopping early never
helps, and the repetition takes as many characters as there are (`run_star_of_rejects`). A
lazy repetition of any character, and the search through a whole text, both try the goal at
one tail of the text after the other (`run_lazyDots`, `Plan.search?_eq`).
-/

namespace Timekeeper

namespace Pattern

/-! ### First answers -/

/-- If no later member has an answer where an earlier one of the same kind has none, the first
answer is the one of the first member of the kind. -/
theorem findSome?_eq_bind {α β : Type} {f g : β → Option α} {p : β → Bool} {l : List β}
    (hf : ∀ x ∈ l, f x = if p x then g x else none)
    (hg : l.Pairwise fun x y => p x = true → p y = true → g x = none → g y = none) :
    l.findSome? f = (l.find? p).bind g := by
  induction l with
  | nil => rfl
  | cons x l ih =>
    obtain ⟨hx, hl⟩ := List.pairwise_cons.mp hg
    have htail : l.findSome? f = (l.find? p).bind g :=
      ih (fun y hy => hf y (List.mem_cons_of_mem _ hy)) hl
    rw [List.findSome?_cons, List.find?_cons, hf x List.mem_cons_self]
    by_cases hp : p x = true
    · simp only [hp, if_true, Option.bind_some]
      cases hgx : g x with
      | some a => rfl
      | none =>
        -- the first member of the kind has no answer, so no later one has
        rw [htail, Option.bind_eq_none_iff]
        exact fun y hy => hx y (List.mem_of_find?_eq_some hy) hp (List.find?_some hy) hgx
    · simp only [hp]
      exact htail

theorem tails_eq_map_drop (x : List Char) :
    x.tails = (List.range (x.length + 1)).map fun n => x.drop n := by
  refine List.ext_getElem (by simp) fun n h _ => ?_
  rw [List.getElem_tails, List.getElem_map, List.getElem_range]

/-- Later tails are tails of earlier ones. -/
theorem pairwise_tails (x : List Char) : x.tails.Pairwise fun y z => z <:+ y := by
  induction x with
  | nil => simp
  | cons c x ih =>
    rw [List.tails_cons]
    refine ih.cons fun y hy => ?_
    exact ((List.mem_tails _ _).mp hy).trans (List.suffix_cons c x)

/-! ### Cursors -/

namespace Cursor

/-- The cursor behind some more characters; the end of the text where there are fewer. -/
def advance : Nat → Cursor → Cursor
  | 0, c => c
  | n + 1, c =>
    match c.next? with
    | some (_, c') => advance n c'
    | none => c

theorem rest_advance (n : Nat) (c : Cursor) : (c.advance n).rest = c.rest.drop n := by
  induction n generalizing c with
  | zero => rfl
  | succ n ih =>
    obtain ⟨before, rest, left, h⟩ := c
    cases rest with
    | nil => rfl
    | cons d rest => exact ih _

theorem rest_advance_one {c : Cursor} {d : Char} {rest : List Char} (h : c.rest = d :: rest) :
    (c.advance 1).rest = rest := by
  rw [rest_advance, h]
  rfl

theorem left_advance (n : Nat) (c : Cursor) : (c.advance n).left = c.left - n := by
  rw [left_eq, rest_advance, List.length_drop, c.left_eq]

theorem advance_add (m n : Nat) (c : Cursor) : c.advance (m + n) = (c.advance m).advance n := by
  induction m generalizing c with
  | zero => simp [advance]
  | succ m ih =>
    rw [Nat.add_right_comm]
    obtain ⟨before, rest, left, h⟩ := c
    cases rest with
    | nil =>
      cases n <;> rfl
    | cons d rest => exact ih _

theorem next?_eq_some {c : Cursor} {d : Char} {rest : List Char} (h : c.rest = d :: rest) :
    c.next? = some (d, c.advance 1) := by
  obtain ⟨before, rest, left, hleft⟩ := c
  obtain rfl : rest = _ := h
  rfl

theorem rest_eq_of_next? {c c' : Cursor} {d : Char} (h : c.next? = some (d, c')) :
    c.rest = d :: c'.rest := by
  obtain ⟨before, rest, left, hleft⟩ := c
  cases rest with
  | nil => contradiction
  | cons e rest =>
    obtain ⟨rfl, rfl⟩ := Prod.mk.inj (Option.some.inj h)
    rfl

/-- Behind at least one character, that character is the one before the cursor. -/
theorem before_advance {n : Nat} {c : Cursor} {d : Char} (h : c.rest[n]? = some d) :
    (c.advance (n + 1)).before = some d := by
  induction n generalizing c with
  | zero =>
    obtain ⟨before, rest, left, hleft⟩ := c
    cases rest with
    | nil => simp at h
    | cons e rest => exact h
  | succ n ih =>
    obtain ⟨before, rest, left, hleft⟩ := c
    cases rest with
    | nil => simp at h
    | cons e rest => exact ih h

end Cursor

/-! ### Runs of plans for one character -/

section Runs

variable {α : Type} {f : Char → Bool} {greedy : Bool} {k : Goal α} {c : Cursor} {s : Captures}

theorem run_one (f : Char → Bool) (k : Goal α) (c : Cursor) (s : Captures) :
    (Plan.one f).run k c s =
      match c.rest with
      | d :: _ => if f d then k (c.advance 1) s else none
      | [] => none := by
  obtain ⟨before, rest, left, h⟩ := c
  cases rest <;> rfl

theorem run_star (p : Plan) (greedy : Bool) (k : Goal α) :
    (Plan.repeated 0 none greedy p).run k =
      Goal.prefer greedy (Goal.onceOrMore p.run greedy k) k := rfl

/-- A repetition with nothing in front of it is passed over. -/
theorem run_star_nil (h : c.rest = []) :
    (Plan.repeated 0 none greedy (.one f)).run k c s = k c s := by
  have hmore : Goal.onceOrMore (Plan.one f).run greedy k c s = none := by
    rw [Goal.onceOrMore, run_one, h]
  rw [run_star, Goal.prefer, hmore]
  cases greedy
  · cases k c s <;> rfl
  · rfl

private theorem left_advance_one_lt {d : Char} {rest : List Char} (h : c.rest = d :: rest) :
    (c.advance 1).left < c.left := by
  rw [Cursor.left_advance, c.left_eq, h, List.length_cons]
  omega

/-- After a first round a repetition is what it was before. -/
theorem onceOrMore_one {d : Char} {rest : List Char} (h : c.rest = d :: rest) :
    Goal.onceOrMore (Plan.one f).run greedy k c s =
      if f d then (Plan.repeated 0 none greedy (.one f)).run k (c.advance 1) s else none := by
  have hleft : c.left = (c.advance 1).left + 1 := by
    rw [Cursor.left_advance, c.left_eq, h]
    rfl
  -- the rounds that are left are bounded by the characters that are left, before and behind
  have hrounds : Goal.rounds (Plan.one f).run greedy k c.left (c.advance 1) s =
      Goal.onceOrMore (Plan.one f).run greedy k (c.advance 1) s := by
    rw [hleft, Goal.rounds, Goal.onceOrMore]
    dsimp only
    rw [run_one, run_one]
    cases hrest : (c.advance 1).rest with
    | nil => rfl
    | cons e rest' => simp only [if_pos (left_advance_one_lt hrest)]
  rw [Goal.onceOrMore, run_one, h, run_star]
  simp only [if_pos (left_advance_one_lt h), Goal.prefer, hrounds]

theorem run_star_cons {d : Char} {rest : List Char} (h : c.rest = d :: rest) :
    (Plan.repeated 0 none greedy (.one f)).run k c s =
      Goal.prefer greedy (fun c s => if f d then
        (Plan.repeated 0 none greedy (.one f)).run k (c.advance 1) s else none) k c s := by
  rw [run_star, Goal.prefer, Goal.prefer, onceOrMore_one h, run_star]

/-- A goal **rejects** a character when it fails wherever one comes next. -/
def Goal.Rejects (k : Goal α) (f : Char → Bool) : Prop :=
  ∀ (c : Cursor) (s : Captures) (d : Char) (rest : List Char),
    c.rest = d :: rest → f d = true → k c s = none

/-- Where the goal fails at the characters that are repeated, a greedy repetition can only
take all of them. -/
theorem run_star_of_rejects (hk : k.Rejects f) (c : Cursor) (s : Captures) :
    (Plan.repeated 0 none true (.one f)).run k c s =
      k (c.advance (c.rest.takeWhile f).length) s := by
  induction hrest : c.rest generalizing c with
  | nil => exact run_star_nil hrest
  | cons d rest ih =>
    have hnext := Cursor.rest_advance_one hrest
    rw [run_star_cons hrest]
    by_cases hd : f d = true
    · -- stopping in front of this character is rejected, so only the longer run counts
      rw [List.takeWhile_cons_of_pos hd, List.length_cons, Nat.add_comm, Cursor.advance_add]
      simp only [Goal.prefer, if_true, hd, ih _ hnext, hk c s d rest hrest hd]
      split <;> simp_all
    · rw [List.takeWhile_cons_of_neg hd]
      simp only [Goal.prefer, if_true, hd]
      rfl

/-- A greedy repetition that needs a first round. -/
theorem run_plus_of_rejects (hk : k.Rejects f) (c : Cursor) (s : Captures) :
    (Plan.repeated 1 none true (.one f)).run k c s =
      if (c.rest.takeWhile f).isEmpty then none
      else k (c.advance (c.rest.takeWhile f).length) s := by
  change Goal.onceOrMore (Plan.one f).run true k c s = _
  cases hrest : c.rest with
  | nil => rw [Goal.onceOrMore, run_one, hrest]; rfl
  | cons d rest =>
    have hnext := Cursor.rest_advance_one hrest
    rw [onceOrMore_one hrest, run_star_of_rejects hk, hnext]
    by_cases hd : f d = true
    · rw [List.takeWhile_cons_of_pos hd, List.length_cons, Nat.add_comm, Cursor.advance_add]
      simp [hd]
    · rw [List.takeWhile_cons_of_neg hd]
      simp [hd]

/-- The first answer of a goal that looks only at what follows is sought from tail to tail. -/
theorem run_lazyDots {g : List Char → Captures → Option α} (hk : ∀ c s, k c s = g c.rest s)
    (c : Cursor) (s : Captures) :
    (Plan.repeated 0 none false (.one fun _ => true)).run k c s =
      c.rest.tails.findSome? (g · s) := by
  induction hrest : c.rest generalizing c with
  | nil =>
    rw [run_star_nil hrest, hk, hrest]
    simp
  | cons d rest ih =>
    have hnext := Cursor.rest_advance_one hrest
    rw [run_star_cons hrest, List.tails_cons, List.findSome?_cons, ← hrest, ← hk]
    simp only [Goal.prefer, ih _ hnext, if_true]
    rfl

/-- The search takes the first tail of the text at which the plan matches. -/
theorem Plan.search?_eq {p : Plan} {g : List Char → Option Captures}
    (hp : ∀ c, p.captures? c = g c.rest) (text : List Char) :
    p.search? text = text.tails.findSome? g := by
  have hfrom (n : Nat) (c : Cursor) (hn : c.left = n) :
      p.searchFrom n c = c.rest.tails.findSome? g := by
    induction n generalizing c with
    | zero =>
      have hrest : c.rest = [] := List.eq_nil_of_length_eq_zero (c.left_eq ▸ hn)
      rw [searchFrom, hp, hrest]
      simp
    | succ n ih =>
      obtain ⟨d, rest, hrest⟩ := List.exists_cons_of_length_eq_add_one (c.left_eq ▸ hn)
      have hnext := Cursor.rest_advance_one hrest
      have hleft : (c.advance 1).left = n := by rw [Cursor.left_advance, hn]; rfl
      rw [searchFrom, Cursor.next?_eq_some hrest, hp, hrest, List.tails_cons, List.findSome?_cons,
        ← hnext, ← ih _ hleft]
      cases g (d :: (c.advance 1).rest) <;> rfl
  exact hfrom text.length (.ofText text) rfl

end Runs

end Pattern

end Timekeeper
