import Timekeeper.Text.Octets
import Mathlib.Data.List.Lex
import Mathlib.Data.String.Basic

/-!
# The order of octets

UTF-8 keeps the order of texts. Of two different characters the lesser one is written in fewer
octets or in as many. If in fewer, its first octet is the lesser one already; if in as many, the
octets are digits, the highest first, and the octets behind the first one hold six bits each. So the
first octet in which the two differ is the lesser one (`Octets.encodeChar_append_lt`), and texts in
the order of their characters have octets in the order of octets (`Octets.ofString_lt_ofString`).
-/

namespace Timekeeper

namespace Octets

variable {c d : Char} {m n : Nat} {a b : Octets}

private theorem char_lt_iff : c < d ↔ c.toNat < d.toNat := by
  rw [Char.lt_def, UInt32.lt_iff_toNat_lt]
  rfl

theorem toNat_octet (n : Nat) : (octet n).toNat = n % 256 := by
  have hvalid : Nat.isValidChar (n % 256) := .inl (by omega)
  rw [octet, Char.ofNat, dif_pos hvalid]
  rfl

theorem octet_lt_octet_iff : octet m < octet n ↔ m % 256 < n % 256 := by
  rw [char_lt_iff, toNat_octet, toNat_octet]

/-- The first octet decides. -/
private theorem octet_cons_lt (h : m < n) (hn : n < 256) (xs ys : Octets) :
    octet m :: xs < octet n :: ys := by
  refine List.cons_lt_cons_iff.mpr (.inl ?_)
  rw [octet_lt_octet_iff]
  omega

/-- Six bits more, after octets that write the numbers above them, still write the lesser number
first. -/
private theorem append_sixBits_lt (h : m < n)
    (hlt : m / 64 < n / 64 → ∀ xs ys, a ++ xs < b ++ ys)
    (heq : m / 64 = n / 64 → a = b) (xs ys : Octets) :
    a ++ octet (0x80 + m % 64) :: xs < b ++ octet (0x80 + n % 64) :: ys := by
  obtain hdiv | hdiv := (Nat.div_le_div_right (c := 64) h.le).lt_or_eq
  · exact hlt hdiv _ _
  · have hlast : 0x80 + m % 64 < 0x80 + n % 64 := by omega
    rw [heq hdiv]
    exact List.append_left_lt (octet_cons_lt hlast (by omega) xs ys)

/-- What a first octet and one with six bits more write. -/
private theorem two_octets_lt {base : Nat} (h : m < n) (hn : base + n / 64 < 256)
    (xs ys : Octets) :
    [octet (base + m / 64), octet (0x80 + m % 64)] ++ xs <
      [octet (base + n / 64), octet (0x80 + n % 64)] ++ ys :=
  append_sixBits_lt h (a := [octet (base + m / 64)])
    (fun hdiv => octet_cons_lt (Nat.add_lt_add_left hdiv base) hn)
    (fun hdiv => by rw [hdiv]) xs ys

private theorem three_octets_lt {base : Nat} (h : m < n) (hn : base + n / 64 / 64 < 256)
    (xs ys : Octets) :
    [octet (base + m / 64 / 64), octet (0x80 + m / 64 % 64), octet (0x80 + m % 64)] ++ xs <
      [octet (base + n / 64 / 64), octet (0x80 + n / 64 % 64), octet (0x80 + n % 64)] ++ ys :=
  append_sixBits_lt h (a := [octet (base + m / 64 / 64), octet (0x80 + m / 64 % 64)])
    (fun hdiv => two_octets_lt hdiv hn) (fun hdiv => by rw [hdiv]) xs ys

private theorem four_octets_lt {base : Nat} (h : m < n) (hn : base + n / 64 / 64 / 64 < 256)
    (xs ys : Octets) :
    [octet (base + m / 64 / 64 / 64), octet (0x80 + m / 64 / 64 % 64), octet (0x80 + m / 64 % 64),
        octet (0x80 + m % 64)] ++ xs <
      [octet (base + n / 64 / 64 / 64), octet (0x80 + n / 64 / 64 % 64),
        octet (0x80 + n / 64 % 64), octet (0x80 + n % 64)] ++ ys :=
  append_sixBits_lt h
    (a := [octet (base + m / 64 / 64 / 64), octet (0x80 + m / 64 / 64 % 64),
      octet (0x80 + m / 64 % 64)])
    (fun hdiv => three_octets_lt hdiv hn) (fun hdiv => by rw [hdiv]) xs ys

/-- The octets of the lesser of two characters come first, whatever stands behind them. -/
theorem encodeChar_append_lt (h : c < d) (xs ys : Octets) :
    encodeChar c ++ xs < encodeChar d ++ ys := by
  have hd : d.toNat < 0x110000 := by
    obtain hvalid | hvalid := d.valid
    · exact hvalid.trans (by decide)
    · exact hvalid.2
  have hone (e : Char) (he : e.toNat < 0x80) : e = octet e.toNat := by
    rw [← Char.toNat_inj, toNat_octet]
    omega
  have hfour (n : Nat) : n / 262144 = n / 64 / 64 / 64 := by omega
  have hthree (n : Nat) : n / 4096 = n / 64 / 64 := by omega
  have hlt : c.toNat < d.toNat := char_lt_iff.mp h
  rw [encodeChar, encodeChar, hfour, hfour, hthree, hthree]
  split_ifs with hc₁ hd₁ hd₂ hd₃ hc₂ hd₁ hd₂ hd₃ hc₃ hd₁ hd₂ hd₃ hd₁ hd₂ hd₃
  -- the lesser character is not written in more octets
  any_goals omega
  -- in fewer octets it is the first octet that decides
  any_goals
    first
    | exact octet_cons_lt (by omega) (by omega) _ _
    | rw [hone c hc₁]; exact octet_cons_lt (by omega) (by omega) _ _
  · exact List.cons_lt_cons_iff.mpr (.inl h)
  · exact two_octets_lt hlt (by omega) xs ys
  · exact three_octets_lt hlt (by omega) xs ys
  · exact four_octets_lt hlt (by omega) xs ys

theorem encodeChar_ne_nil (c : Char) : encodeChar c ≠ [] := by
  rw [encodeChar]
  split_ifs <;> exact List.cons_ne_nil _ _

/-- Texts in the order of their characters have octets in order. -/
theorem encode_lt_encode {a b : List Char} (h : a < b) : encode a < encode b := by
  induction a generalizing b with
  | nil =>
    cases b with
    | nil => exact absurd h (List.lt_irrefl [])
    | cons d b =>
      obtain ⟨first, rest, hd⟩ := List.exists_cons_of_ne_nil (encodeChar_ne_nil d)
      rw [encode, encode, List.flatMap_nil, List.flatMap_cons, hd]
      exact List.nil_lt_cons first _
  | cons c a ih =>
    cases b with
    | nil => exact absurd h (List.not_lt_nil _)
    | cons d b =>
      rw [encode, encode, List.flatMap_cons, List.flatMap_cons]
      obtain hlt | ⟨rfl, hrest⟩ := List.cons_lt_cons_iff.mp h
      · exact encodeChar_append_lt hlt _ _
      · exact List.append_left_lt (ih hrest)

/-- Strings are in the order of their octets. -/
theorem ofString_lt_ofString {s t : String} (h : s < t) : ofString s < ofString t :=
  encode_lt_encode (String.lt_iff_toList_lt.mp h)

end Octets

end Timekeeper
