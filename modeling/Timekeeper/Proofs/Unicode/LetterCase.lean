import Timekeeper.Pattern.Plan
import Timekeeper.Proofs.Unicode.Folding
import Timekeeper.Unicode.LowerCase
import Mathlib.Data.List.TakeWhile

/-!
# The case of ASCII letters

`Char.toLower` writes the capital letters of ASCII small and leaves every other character as it
is. What a function on characters says of ASCII can be looked up, so whether the function tells
the cases apart is decided by 128 characters (`apply_toLower`). Folds, white space, word
characters and the lower case of a text do not tell them apart.
-/

namespace Timekeeper

namespace Unicode

theorem toLower_of_le {c : Char} (h : 128 ≤ c.toNat) : c.toLower = c := by
  refine dif_neg fun hc => ?_
  have hle : c.toNat ≤ 'Z'.toNat := UInt32.le_iff_toNat_le.mp hc.2
  exact absurd (hle.trans (by decide : 'Z'.toNat ≤ 127)) (by omega)

/-- A function that does not tell the cases apart in ASCII does not tell them apart. -/
theorem apply_toLower {α : Type} {f : Char → α}
    (h : ∀ n < 128, f (Char.ofNat n).toLower = f (Char.ofNat n)) (c : Char) :
    f c.toLower = f c := by
  by_cases hc : c.toNat < 128
  · exact forall_ascii (P := fun d => f d.toLower = f d) h hc
  · rw [toLower_of_le (by omega)]

/-- The same for a property of characters. -/
theorem toLower_iff {P : Char → Prop}
    (h : ∀ n < 128, P (Char.ofNat n).toLower ↔ P (Char.ofNat n)) (c : Char) :
    P c.toLower ↔ P c :=
  Iff.of_eq (apply_toLower (f := P) (fun n hn => propext (h n hn)) c)

theorem fold_toLower (c : Char) : fold c.toLower = fold c :=
  apply_toLower (by decide) c

theorem map_fold_toLower (text : List Char) :
    (text.map Char.toLower).map fold = text.map fold := by
  rw [List.map_map]
  exact List.map_congr_left fun c _ => fold_toLower c

/-! ### Lower case -/

private theorem lowerChar_toLower (c : Char) : lowerChar c.toLower = lowerChar c :=
  apply_toLower (by decide) c

private theorem casedFirst_map_toLower (text : List Char) :
    casedFirst (text.map Char.toLower) = casedFirst text := by
  have hignorable : (fun c => !caseIgnorable.contains c) ∘ Char.toLower =
      fun c => !caseIgnorable.contains c :=
    funext <| apply_toLower (f := fun c => !caseIgnorable.contains c) (by decide)
  rw [casedFirst, casedFirst, List.find?_map, hignorable]
  cases text.find? fun c => !caseIgnorable.contains c with
  | none => rfl
  | some c => exact apply_toLower (f := cased.contains) (by decide) c

private theorem lowerFrom_map_toLower (before text : List Char) :
    lowerFrom (before.map Char.toLower) (text.map Char.toLower) = lowerFrom before text := by
  induction text generalizing before with
  | nil => rfl
  | cons c text ih =>
    have hrest := ih (c :: before)
    have hsigma := toLower_iff (P := (· = 'Σ')) (by decide) c
    rw [List.map_cons] at hrest
    rw [List.map_cons, lowerFrom, lowerFrom, hrest, lowerChar_toLower, casedFirst_map_toLower,
      casedFirst_map_toLower]
    simp only [hsigma]

/-- The lower case of a text does not depend on the case in which it is written. -/
theorem lowerText_map_toLower (text : List Char) :
    lowerText (text.map Char.toLower) = lowerText text :=
  lowerFrom_map_toLower [] text

end Unicode

/-! ### Classes of characters -/

theorem Text.isBlank_toLower (c : Char) : isBlank c.toLower = isBlank c :=
  Unicode.apply_toLower (by decide) c

theorem Pattern.isWord_toLower (c : Char) : isWord true c.toLower = isWord true c :=
  Unicode.apply_toLower (by decide) c

/-- The longest run of a class that does not tell the cases apart is as long in either case. -/
theorem Text.takeWhile_map_toLower {f : Char → Bool} (h : ∀ c, f c.toLower = f c)
    (text : List Char) :
    (text.map Char.toLower).takeWhile f = (text.takeWhile f).map Char.toLower := by
  rw [List.takeWhile_map, show f ∘ Char.toLower = f from funext h]

end Timekeeper
