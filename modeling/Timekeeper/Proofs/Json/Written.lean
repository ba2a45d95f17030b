import Mathlib.Data.List.Forall2
import Timekeeper.Json.Reader

/-!
# The grammar of JSON texts

Which texts are JSON, said without the readers that go through them. A string has its characters as
they are, behind a backslash as a letter, or as one or two code units in hexadecimal digits; a text
that **spells** given characters (`SpellsString`) is told apart from one that is a string at all
(`IsString`), since code units that are no character are allowed where nobody asks for the string.

Lists and objects have their items between an opening and a closing sign, with commas between them
and blanks wherever two parts meet (`Enclosed`). A value (`IsValue`) may be nested to any depth.

Every string can be spelled (`exists_spellsString`).
-/

namespace Timekeeper

namespace Json

/-! ### Blanks and digits -/

/-- Nothing but blanks. -/
def Blanks (text : List Char) : Prop := ∀ c ∈ text, c ∈ [' ', '\n', '\t', '\r']

instance (text : List Char) : Decidable (Blanks text) :=
  List.decidableBAll _ text

/-- One or more decimal digits. -/
def Digits (text : List Char) : Prop := text ≠ [] ∧ ∀ c ∈ text, c.isDigit = true

/-- A hexadecimal digit of a value, in either case. -/
def IsHexDigit (value : Nat) (c : Char) : Prop :=
  "0123456789abcdef".toList[value]? = some c ∨ "0123456789ABCDEF".toList[value]? = some c

/-! ### Strings -/

/-- The four digits of a code unit. -/
inductive IsCodeUnit : Nat → List Char → Prop
  | mk {a b c d : Nat} {a' b' c' d' : Char} (ha : IsHexDigit a a') (hb : IsHexDigit b b')
    (hc : IsHexDigit c c') (hd : IsHexDigit d d') :
    IsCodeUnit (((a * 16 + b) * 16 + c) * 16 + d) [a', b', c', d']

/-- The characters that can be written as a letter behind a backslash, with these letters. -/
def letterEscapes : List (Char × Char) :=
  [('"', '"'), ('\\', '\\'), ('/', '/'), ('\x08', 'b'), ('\x0c', 'f'), ('\n', 'n'), ('\r', 'r'),
    ('\t', 't')]

/-- A character that can stand for itself in a string. -/
structure IsPlain (c : Char) : Prop where
  not_control : 0x20 ≤ c.toNat
  ne_quote : c ≠ '"'
  ne_backslash : c ≠ '\\'

instance (c : Char) : Decidable (IsPlain c) :=
  decidable_of_iff (0x20 ≤ c.toNat ∧ c ≠ '"' ∧ c ≠ '\\')
    ⟨fun h => ⟨h.1, h.2.1, h.2.2⟩, fun h => ⟨h.not_control, h.ne_quote, h.ne_backslash⟩⟩

/-- A way to write one character of a string. -/
inductive SpellsChar : Char → List Char → Prop
  | plain {c : Char} (h : IsPlain c) : SpellsChar c [c]
  | letter {c letter : Char} (h : (c, letter) ∈ letterEscapes) : SpellsChar c ['\\', letter]
  | unit {c : Char} {digits : List Char} (h : IsCodeUnit c.toNat digits) :
    SpellsChar c ('\\' :: 'u' :: digits)
  | pair {c : Char} {high low : Nat} {first second : List Char} (hfirst : IsCodeUnit high first)
    (hsecond : IsCodeUnit low second) (hhigh : 0xd800 ≤ high ∧ high ≤ 0xdbff)
    (hlow : 0xdc00 ≤ low ∧ low ≤ 0xdfff)
    (h : c.toNat = 0x10000 + (high - 0xd800) * 0x400 + (low - 0xdc00)) :
    SpellsChar c ('\\' :: 'u' :: (first ++ '\\' :: 'u' :: second))

/-- A text that **spells** characters as a string. -/
def SpellsString (chars text : List Char) : Prop :=
  ∃ pieces : List (List Char), List.Forall₂ SpellsChar chars pieces ∧
    text = '"' :: (pieces.flatten ++ ['"'])

theorem exists_isHexDigit {value : Nat} (h : value < 16) : ∃ c, IsHexDigit value c :=
  ⟨_, .inl (List.getElem?_eq_getElem h)⟩

theorem exists_isCodeUnit {n : Nat} (h : n < 0x10000) : ∃ digits, IsCodeUnit n digits := by
  obtain ⟨a, ha⟩ := exists_isHexDigit (by omega : n / 0x1000 < 16)
  obtain ⟨b, hb⟩ := exists_isHexDigit (by omega : n / 0x100 % 16 < 16)
  obtain ⟨c, hc⟩ := exists_isHexDigit (by omega : n / 0x10 % 16 < 16)
  obtain ⟨d, hd⟩ := exists_isHexDigit (by omega : n % 16 < 16)
  have hsum : ((n / 0x1000 * 16 + n / 0x100 % 16) * 16 + n / 0x10 % 16) * 16 + n % 16 = n := by
    omega
  exact ⟨_, hsum ▸ IsCodeUnit.mk ha hb hc hd⟩

/-- Every character can be written. -/
theorem exists_spellsChar (c : Char) : ∃ text, SpellsChar c text := by
  by_cases hquote : c = '"'
  · subst hquote
    exact ⟨['\\', '"'], .letter (by decide)⟩
  by_cases hbackslash : c = '\\'
  · subst hbackslash
    exact ⟨['\\', '\\'], .letter (by decide)⟩
  by_cases hcontrol : c.toNat < 0x20
  · obtain ⟨digits, hdigits⟩ := exists_isCodeUnit (n := c.toNat) (by omega)
    exact ⟨_, .unit hdigits⟩
  · exact ⟨_, .plain ⟨Nat.not_lt.mp hcontrol, hquote, hbackslash⟩⟩

/-- Every string can be spelled. -/
theorem exists_spellsString (chars : List Char) : ∃ text, SpellsString chars text := by
  choose f hf using exists_spellsChar
  have hpieces : List.Forall₂ SpellsChar chars (chars.map f) :=
    List.forall₂_map_right_iff.mpr (List.forall₂_same.mpr fun c _ => hf c)
  exact ⟨_, chars.map f, hpieces, rfl⟩

/-- Where all characters can stand for themselves they may be written as they are. -/
theorem spellsString_plain {chars : List Char} (h : ∀ c ∈ chars, IsPlain c) :
    SpellsString chars ('"' :: (chars ++ ['"'])) := by
  refine ⟨chars.map fun c => [c], ?_, by rw [← List.flatMap_def, List.flatMap_singleton']⟩
  exact List.forall₂_map_right_iff.mpr (List.forall₂_same.mpr fun c hc => .plain (h c hc))

/-- A part of a string of which nobody asks what it stands for. -/
inductive IsPiece : List Char → Prop
  | plain {c : Char} (h : IsPlain c) : IsPiece [c]
  | letter {c letter : Char} (h : (c, letter) ∈ letterEscapes) : IsPiece ['\\', letter]
  | unit {n : Nat} {digits : List Char} (h : IsCodeUnit n digits) : IsPiece ('\\' :: 'u' :: digits)

/-- A string of which nobody asks what it stands for. -/
def IsString (text : List Char) : Prop :=
  ∃ pieces : List (List Char), (∀ piece ∈ pieces, IsPiece piece) ∧
    text = '"' :: (pieces.flatten ++ ['"'])

/-! ### Numbers -/

/-- The whole part of a number, which has no leading zeros. -/
def IsWhole (text : List Char) : Prop := text = ['0'] ∨ Digits text ∧ text.head? ≠ some '0'

/-- The fraction of a number, if it has one. -/
def IsFraction (text : List Char) : Prop :=
  text = [] ∨ ∃ digits, Digits digits ∧ text = '.' :: digits

/-- The exponent of a number, if it has one. -/
def IsExponent (text : List Char) : Prop :=
  text = [] ∨ ∃ letter ∈ ['e', 'E'], ∃ sign ∈ [[], ['+'], ['-']], ∃ digits, Digits digits ∧
    text = letter :: (sign ++ digits)

/-- A number. -/
def IsNumber (text : List Char) : Prop :=
  ∃ sign ∈ [[], ['-']], ∃ whole fraction exponent, IsWhole whole ∧ IsFraction fraction ∧
    IsExponent exponent ∧ text = sign ++ (whole ++ (fraction ++ exponent))

/-! ### Lists and objects -/

/-- Items with commas between them, where `item` tells how an item is written. -/
inductive Listed (item : α → List Char → Prop) : List α → List Char → Prop
  | last {x : α} {text b : List Char} (hx : item x text) (hb : Blanks b) :
    Listed item [x] (text ++ b)
  | cons {x : α} {xs : List α} {text b b' rest : List Char} (hx : item x text) (hb : Blanks b)
    (hb' : Blanks b') (hrest : Listed item xs rest) :
    Listed item (x :: xs) (text ++ (b ++ ',' :: (b' ++ rest)))

theorem Listed.length_le {item : α → List Char → Prop} {xs : List α} {text : List Char}
    (h : Listed item xs text) (hitem : ∀ x text, item x text → 0 < text.length) :
    xs.length ≤ text.length := by
  induction h with
  | last hx _ =>
    have hpos := hitem _ _ hx
    simp only [List.length_append, List.length_cons, List.length_nil]
    omega
  | cons hx _ _ _ ih =>
    have hpos := hitem _ _ hx
    simp only [List.length_append, List.length_cons]
    omega

/-- Items between an opening and a closing sign. -/
inductive Enclosed (opening closing : Char) (item : α → List Char → Prop) :
    List α → List Char → Prop
  | empty {b : List Char} (hb : Blanks b) :
    Enclosed opening closing item [] (opening :: (b ++ [closing]))
  | items {xs : List α} {b text : List Char} (hb : Blanks b) (hitems : Listed item xs text) :
    Enclosed opening closing item xs (opening :: (b ++ (text ++ [closing])))

theorem exists_listed {item : α → List Char → Prop} {xs : List α} (hne : xs ≠ [])
    (h : ∀ x ∈ xs, ∃ text, item x text) : ∃ text, Listed item xs text := by
  induction xs with
  | nil => contradiction
  | cons x xs ih =>
    obtain ⟨⟨text, htext⟩, hrest⟩ := List.forall_mem_cons.mp h
    cases xs with
    | nil => exact ⟨_, .last htext (List.forall_mem_nil _)⟩
    | cons y ys =>
      obtain ⟨rest, hlisted⟩ := ih (List.cons_ne_nil y ys) hrest
      exact ⟨_, .cons htext (List.forall_mem_nil _) (List.forall_mem_nil _) hlisted⟩

/-- Items that can be written can be written between two signs. -/
theorem exists_enclosed {opening closing : Char} {item : α → List Char → Prop} {xs : List α}
    (h : ∀ x ∈ xs, ∃ text, item x text) : ∃ text, Enclosed opening closing item xs text := by
  cases xs with
  | nil => exact ⟨_, .empty (List.forall_mem_nil _)⟩
  | cons x xs =>
    obtain ⟨text, htext⟩ := exists_listed (List.cons_ne_nil x xs) h
    exact ⟨_, .items (List.forall_mem_nil _) htext⟩

/-- A list, of which the texts of its values are given. -/
def IsList : List (List Char) → List Char → Prop := Enclosed '[' ']' Eq

/-- A member of an object: a name, of which `key` tells how it is written, and the text of a
value. -/
inductive IsMember (key : α → List Char → Prop) : α × List Char → List Char → Prop
  | mk {name : α} {k b b' value : List Char} (hk : key name k) (hb : Blanks b) (hb' : Blanks b') :
    IsMember key (name, value) (k ++ (b ++ ':' :: (b' ++ value)))

theorem IsMember.length_pos {key : α → List Char → Prop} {m : α × List Char} {text : List Char}
    (h : IsMember key m text) : 0 < text.length := by
  obtain ⟨-, -, -⟩ := h
  simp only [List.length_append, List.length_cons]
  omega

/-- An object, of which the names and the texts of the values are given. -/
def IsObject (key : α → List Char → Prop) : List (α × List Char) → List Char → Prop :=
  Enclosed '\x7b' '\x7d' (IsMember key)

/-! ### Values -/

/-- A value that is neither a list nor an object. -/
inductive IsScalar : List Char → Prop
  | null : IsScalar ['n', 'u', 'l', 'l']
  | true : IsScalar ['t', 'r', 'u', 'e']
  | false : IsScalar ['f', 'a', 'l', 's', 'e']
  | number {text : List Char} (h : IsNumber text) : IsScalar text
  | string {text : List Char} (h : IsString text) : IsScalar text

/-- A **value**, in which lists and objects are nested to any depth. -/
inductive IsValue : List Char → Prop
  | scalar {text : List Char} (h : IsScalar text) : IsValue text
  | list {values : List (List Char)} {text : List Char} (h : IsList values text)
    (hvalues : ∀ value ∈ values, IsValue value) : IsValue text
  | object {members : List (Unit × List Char)} {text : List Char}
    (h : IsObject (fun _ => IsString) members text) (hvalues : ∀ m ∈ members, IsValue m.2) :
    IsValue text

end Json

end Timekeeper
