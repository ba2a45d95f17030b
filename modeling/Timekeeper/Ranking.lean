import Timekeeper.Score

/-!
# Rankings

Languages with a total above zero in the order of their totals, equal totals in the order in
which they were given. Each has its position and, from the second on, how many times the
fastest total its own total is.
-/

namespace Timekeeper

/-- The place of one language in a ranking. -/
structure Placing where
  position : Nat
  language : String
  total : Binary64
  /-- The total divided by the fastest one; the first language has none. -/
  ratio : Option Binary64
deriving DecidableEq

/-- Whether a language is the fastest one. -/
def Placing.isFastest (p : Placing) : Bool := p.position == 1

/-- How two totals compare. -/
structure Comparison where
  subject : String
  baseline : String
  ratio : Binary64
deriving DecidableEq

namespace Comparison

/-- Compares the totals of two languages. -/
def of (subject : String) (subjectTotal : Binary64) (baseline : String)
    (baselineTotal : Binary64) : Comparison :=
  ⟨subject, baseline, subjectTotal / baselineTotal⟩

/-- Whether the subject is the faster one. -/
def isFaster (c : Comparison) : Bool := c.ratio.lt .one

/-- How many times the faster total the slower one is. -/
def factor (c : Comparison) : Binary64 := if c.isFaster then .one / c.ratio else c.ratio

/-- A comparison in words. -/
def text (c : Comparison) : String :=
  String.ofList (c.factor.fixed 2) ++ "x " ++ (if c.isFaster then "faster" else "slower") ++
    " than " ++ c.baseline

end Comparison

/-- Where a language stands among the others. -/
structure Standing where
  rank : Nat
  outOf : Nat
  total : Binary64
  fastest : String
  ratio : Binary64
deriving DecidableEq

/-- Whether a language stands first. -/
def Standing.isFastest (s : Standing) : Bool := s.rank == 1

/-- The placings of all languages that take part, the fastest first. -/
structure Ranking where
  placings : List Placing
deriving DecidableEq

namespace Ranking

/-- The languages that take part, with their totals, in the order given. -/
def contenders (scores : List Score) : List (String × Binary64) :=
  scores.filterMap fun s =>
    match s.total? with
    | some total => if total.isPositive then some (s.language, total) else none
    | none => none

/-- The contenders in the order of their totals, of equal ones the earlier first. -/
def sorted (scores : List Score) : List (String × Binary64) :=
  (contenders scores).mergeSort fun a b => a.2.totalLe b.2

/-- The placing of a contender behind so many others. -/
def placing (fastest : Option Binary64) (c : (String × Binary64) × Nat) : Placing where
  position := c.2 + 1
  language := c.1.1
  total := c.1.2
  ratio := if c.2 = 0 then none else fastest.map (c.1.2 / ·)

/-- The ranking of some scores. -/
def ofScores (scores : List Score) : Ranking :=
  let order := sorted scores
  ⟨order.zipIdx.map (placing (order.head?.map Prod.snd))⟩

/-- Whether no language takes part. -/
def isEmpty (r : Ranking) : Bool := r.placings.isEmpty

/-- The fastest language. -/
def fastest? (r : Ranking) : Option Placing := r.placings.head?

/-- The first placing of a language. -/
def get? (r : Ranking) (language : String) : Option Placing :=
  r.placings.find? (·.language = language)

/-- Where a language stands, if it takes part. -/
def standing? (r : Ranking) (subject : String) : Option Standing := do
  let fastest ← r.fastest?
  let own ← r.get? subject
  return ⟨own.position, r.placings.length, own.total, fastest.language, own.ratio.getD .one⟩

/-- How two languages compare, if both take part. -/
def compare? (r : Ranking) (subject baseline : String) : Option Comparison := do
  let s ← r.get? subject
  let b ← r.get? baseline
  return .of s.language s.total b.language b.total

end Ranking

end Timekeeper
