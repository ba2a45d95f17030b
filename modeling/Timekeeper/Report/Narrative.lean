import Timekeeper.Report.Podium

/-!
# The summary in sentences

How one language, the subject, stands in the ranking, and how it compares with another, the
baseline.
-/

namespace Timekeeper

namespace Report

/-- How the subject stands against the fastest language. -/
def againstFastest (subject : String) (s : Standing) : Line :=
  if s.isFastest then "  ".toList ++ subject.toList ++ " is the fastest language.".toList
  else
    "  Against the fastest (".toList ++ s.fastest.toList ++ "): ".toList ++ s.ratio.fixed 2 ++
      "x slower".toList

/-- How the subject compares with the baseline. -/
def againstBaseline (r : Ranking) (subject baseline : String) : Line :=
  match r.compare? subject baseline with
  | some c => "  ".toList ++ subject.toList ++ " is ".toList ++ c.text.toList
  | none => "  ".toList ++ baseline.toList ++ " has no valid total to compare against.".toList

/-- The lines of the summary. -/
def narrative (r : Ranking) (subject baseline : String) : List Line :=
  if r.isEmpty then [nobodyRanked]
  else
    match r.standing? subject with
    | none => ["  ".toList ++ subject.toList ++ " has no rank: no valid total was reported.".toList]
    | some s =>
      ["  ".toList ++ subject.toList ++ " rank: ".toList ++ numeral s.rank ++ ['/'] ++
          numeral s.outOf,
        "  ".toList ++ subject.toList ++ " total: ".toList ++ duration (some s.total),
        againstFastest subject s,
        againstBaseline r subject baseline]

end Report

end Timekeeper
