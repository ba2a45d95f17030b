import Timekeeper.Proofs.Json.Written

/-!
# Reading what is written

A reader **takes** what a text begins with if it comes to the rest of the text, wherever in a
document the text begins (`Reads`). What a sequence of readers takes is put together from what each
takes (`Reads.bind`), so that every part of the grammar has one theorem: a string is read to the
characters it spells (`SpellsString.reads`), one that nobody asks for is passed
(`IsString.reads`), and so is a number if what follows does not continue it (`IsNumber.reads`).
-/

namespace Timekeeper

namespace Json

/-! ### Steps -/

/-- A reader **takes** what a text begins with: at whatever place it begins, it comes to the rest of
the text and gives the result. -/
def Reads (m : Reading α) (text rest : List Char) (result : α) : Prop :=
  ∀ p, ∃ q, m.run ⟨text, p⟩ = .ok (result, ⟨rest, q⟩)

variable {α β : Type} {s t u b : List Char}

theorem reads_pure (a : α) : Reads (pure a) s s a := fun p => ⟨p, rfl⟩

theorem Reads.bind {m : Reading α} {f : α → Reading β} {a : α} {r : β} (hm : Reads m s t a)
    (hf : Reads (f a) t u r) : Reads (m >>= f) s u r := by
  intro p
  obtain ⟨q, hq⟩ := hm p
  obtain ⟨q', hq'⟩ := hf q
  refine ⟨q', ?_⟩
  rw [StateT.run_bind, hq]
  exact hq'

/-- A reader that begins with a look at the input may read it as it finds it. -/
theorem Reads.bind_get {f : Input → Reading β} {r : β}
    (hf : ∀ p, Reads (f ⟨s, p⟩) s u r) : Reads (get >>= f) s u r := fun p => hf p p

theorem reads_advance (c : Char) : Reads advance (c :: s) s ⟨⟩ := fun p => ⟨p.after c, rfl⟩

theorem reads_next : Reads next? s s s.head? := fun p => ⟨p, rfl⟩

/-- A text whose first character, if it has one, does **not** pass a test. -/
def Stops (f : Char → Bool) (text : List Char) : Prop := ∀ c ∈ text.head?, f c = false

theorem stops_cons {f : Char → Bool} {c : Char} (h : f c = false) : Stops f (c :: s) :=
  fun _ hd => Option.some.inj hd ▸ h

/-- Where characters that pass a test are followed by one that does not, they are split there. -/
private theorem span_append {f : Char → Bool} (ht : ∀ c ∈ t, f c = true) (hs : Stops f s) :
    (t ++ s).takeWhile f = t ∧ (t ++ s).dropWhile f = s := by
  rw [List.takeWhile_append_of_pos ht, List.dropWhile_append_of_pos ht]
  cases s with
  | nil => simp
  | cons c s => simp [hs c rfl]

theorem Blanks.isBlank (hb : Blanks b) : ∀ c ∈ b, isBlank c = true := by
  intro c hc
  have h := hb c hc
  simp only [List.mem_cons, List.not_mem_nil, or_false] at h
  obtain rfl | rfl | rfl | rfl := h <;> rfl

theorem blanks_nil : Blanks [] := List.forall_mem_nil _

theorem reads_skip (hb : Blanks b) (hs : Stops isBlank s) : Reads skip (b ++ s) s s.head? := by
  intro p
  obtain ⟨htake, hdrop⟩ := span_append hb.isBlank hs
  have hskip : Input.skip ⟨b ++ s, p⟩ = ⟨s, b.foldl Place.after p⟩ := by
    simp only [Input.skip, htake, hdrop]
  have hrun : skip.run ⟨b ++ s, p⟩ =
    .ok ((Input.skip ⟨b ++ s, p⟩).rest.head?, Input.skip ⟨b ++ s, p⟩) := rfl
  exact ⟨_, by rw [hrun, hskip]⟩

theorem reads_takeDigits (ht : ∀ c ∈ t, c.isDigit = true) (hs : Stops Char.isDigit s) :
    Reads takeDigits (t ++ s) s t := by
  intro p
  obtain ⟨htake, hdrop⟩ := span_append ht hs
  have hrun : takeDigits.run ⟨t ++ s, p⟩ = .ok ((t ++ s).takeWhile Char.isDigit,
    ⟨(t ++ s).dropWhile Char.isDigit, p.behind ((t ++ s).takeWhile Char.isDigit).length⟩) := rfl
  exact ⟨_, by rw [hrun, htake, hdrop]⟩

theorem reads_word (w : List Char) : Reads (word w) (w ++ s) s PUnit.unit := by
  induction w with
  | nil => exact reads_pure PUnit.unit
  | cons c w ih =>
    refine reads_next.bind ?_
    simp only [List.cons_append, List.head?_cons, if_true]
    exact (reads_advance c).bind ih

/-! ### Strings -/

private theorem hexValue?_digits : ∀ value < 16,
    ("0123456789abcdef".toList[value]?.toList ++ "0123456789ABCDEF".toList[value]?.toList).all
      fun c => hexValue? c = some value ∧ c.utf8Size = 1 := by
  decide

/-- A hexadecimal digit is read as its value, and is a single byte. -/
theorem IsHexDigit.spec {value : Nat} {c : Char} (h : IsHexDigit value c) :
    hexValue? c = some value ∧ c.utf8Size = 1 := by
  have hlt : value < 16 := by
    obtain h | h := h <;> exact (List.getElem?_eq_some_iff.mp h).1
  refine of_decide_eq_true (List.all_eq_true.mp (hexValue?_digits value hlt) c ?_)
  exact List.mem_append.mpr (h.imp Option.mem_toList.mpr Option.mem_toList.mpr)

theorem reads_hexEscape {n : Nat} {digits : List Char} (h : IsCodeUnit n digits) :
    Reads hexEscape (digits ++ s) s n := by
  obtain @⟨a, b, c, d, a', b', c', d', ha, hb, hc, hd⟩ := h
  obtain ⟨ha, hasize⟩ := ha.spec
  obtain ⟨hb, hbsize⟩ := hb.spec
  obtain ⟨hc, hcsize⟩ := hc.spec
  obtain ⟨hd, hdsize⟩ := hd.spec
  intro p
  obtain ⟨q, hplace⟩ : ∃ q, placeBehind? 4 (a' :: b' :: c' :: d' :: s) p = some q := by
    simp [placeBehind?, hasize, hbsize, hcsize, hdsize]
  refine ⟨q, ?_⟩
  simp only [hexEscape, bind_pure_comp, List.cons_append, List.nil_append, StateT.run_bind,
    StateT.run_get, pure_bind, hplace, ha, hb, hc, hd, StateT.run_map, StateT.run_set, map_pure]
  rfl

theorem reads_pairSign (sign : Char) : Reads (pairSign sign) (sign :: s) s PUnit.unit := by
  refine reads_next.bind ?_
  simp only [List.head?_cons, if_true]
  exact reads_advance sign

/-- Characters are no surrogates. -/
private theorem not_surrogate (c : Char) : c.toNat < 0xd800 ∨ 0xdfff < c.toNat :=
  c.valid.imp id And.left

theorem reads_unicodeEscape {c : Char} {digits : List Char} (h : IsCodeUnit c.toNat digits) :
    Reads unicodeEscape (digits ++ s) s c := by
  have hc := not_surrogate c
  refine (reads_hexEscape h).bind ?_
  simp only [if_neg (by omega : ¬(0xdc00 ≤ c.toNat ∧ c.toNat ≤ 0xdfff)),
    if_pos (by omega : c.toNat < 0xd800 ∨ 0xdbff < c.toNat), Char.ofNat_toNat]
  exact reads_pure c

theorem reads_unicodeEscape_pair {c : Char} {high low : Nat} {first second : List Char}
    (hfirst : IsCodeUnit high first) (hsecond : IsCodeUnit low second)
    (hhigh : 0xd800 ≤ high ∧ high ≤ 0xdbff) (hlow : 0xdc00 ≤ low ∧ low ≤ 0xdfff)
    (h : c.toNat = 0x10000 + (high - 0xd800) * 0x400 + (low - 0xdc00)) :
    Reads unicodeEscape (first ++ '\\' :: 'u' :: (second ++ s)) s c := by
  have hsum : (high - 0xd800) * 0x400 + (low - 0xdc00) + 0x10000 = c.toNat := by omega
  refine (reads_hexEscape hfirst).bind ?_
  simp only [if_neg (by omega : ¬(0xdc00 ≤ high ∧ high ≤ 0xdfff)),
    if_neg (by omega : ¬(high < 0xd800 ∨ 0xdbff < high))]
  refine (reads_pairSign '\\').bind ((reads_pairSign 'u').bind ((reads_hexEscape hsecond).bind ?_))
  simp only [if_neg (by omega : ¬(low < 0xdc00 ∨ 0xdfff < low)), hsum, Char.ofNat_toNat]
  exact reads_pure c

/-- What an escape stands for, `hex` being how hexadecimal digits are read. -/
theorem reads_escape_unit {hex : Reading Char} {c : Char} (h : Reads hex t s c) :
    Reads (escape hex) ('u' :: t) s c := by
  refine reads_next.bind ?_
  exact (reads_advance 'u').bind h

theorem reads_escape_letter {c letter : Char} (hex : Reading Char)
    (h : (c, letter) ∈ letterEscapes) : Reads (escape hex) (letter :: s) s c := by
  refine reads_next.bind ?_
  simp only [letterEscapes, List.mem_cons, List.not_mem_nil, or_false, Prod.mk.injEq] at h
  obtain ⟨rfl, rfl⟩ | ⟨rfl, rfl⟩ | ⟨rfl, rfl⟩ | ⟨rfl, rfl⟩ | ⟨rfl, rfl⟩ | ⟨rfl, rfl⟩ | ⟨rfl, rfl⟩ |
    ⟨rfl, rfl⟩ := h <;> exact (reads_advance _).bind (reads_pure _)

section Body

variable {hex control : Reading Char} {n : Nat} {read r : List Char} {c : Char}

theorem reads_stringBody_quote : Reads (stringBody hex control (n + 1) read) ('"' :: s) s read := by
  rw [stringBody]
  refine reads_next.bind ?_
  exact (reads_advance _).bind (reads_pure _)

theorem Reads.stringBody_plain (hc : IsPlain c)
    (h : Reads (stringBody hex control n (c :: read)) s t r) :
    Reads (stringBody hex control (n + 1) read) (c :: s) t r := by
  rw [stringBody]
  refine reads_next.bind ?_
  split
  · rename_i heq
    cases heq
  · rename_i heq
    exact absurd (Option.some.inj heq) hc.ne_quote
  · rename_i heq
    exact absurd (Option.some.inj heq) hc.ne_backslash
  · rename_i heq
    obtain rfl := Option.some.inj heq
    rw [if_neg (Nat.not_lt.mpr hc.not_control)]
    exact (reads_advance c).bind h

theorem Reads.stringBody_escape (he : Reads (escape hex) u s c)
    (h : Reads (stringBody hex control n (c :: read)) s t r) :
    Reads (stringBody hex control (n + 1) read) ('\\' :: u) t r := by
  rw [stringBody]
  refine reads_next.bind ?_
  exact (reads_advance _).bind (he.bind h)

/-- In the body of a string a **piece** is taken for a character. -/
private def Takes (hex control : Reading Char) (c : Char) (piece : List Char) : Prop :=
  0 < piece.length ∧ ∀ {n : Nat} {read s t r : List Char},
    Reads (stringBody hex control n (c :: read)) s t r →
      Reads (stringBody hex control (n + 1) read) (piece ++ s) t r

private theorem reads_stringBody {chars : List Char} {pieces : List (List Char)}
    (h : List.Forall₂ (Takes hex control) chars pieces) (hn : pieces.flatten.length < n) :
    Reads (stringBody hex control n read) (pieces.flatten ++ '"' :: s) s
      (chars.reverse ++ read) := by
  induction h generalizing n read with
  | nil =>
    obtain ⟨m, rfl⟩ := Nat.exists_eq_add_of_le' hn
    exact reads_stringBody_quote
  | @cons c piece chars pieces hpiece _ ih =>
    obtain ⟨hpos, htakes⟩ := hpiece
    obtain ⟨m, rfl⟩ := Nat.exists_eq_add_of_le' (Nat.zero_lt_of_lt hn)
    rw [List.flatten_cons, List.length_append] at hn
    rw [List.flatten_cons, List.append_assoc, List.reverse_cons, List.append_assoc]
    exact htakes (ih (by omega))

/-- The length of what is left bounds how many pieces there are. -/
private theorem reads_stringBody_length {chars : List Char} {pieces : List (List Char)}
    (h : List.Forall₂ (Takes hex control) chars pieces) :
    Reads (stringBody hex control ((pieces.flatten ++ '"' :: s).length + 1) [])
      (pieces.flatten ++ '"' :: s) s chars.reverse := by
  rw [← List.append_nil chars.reverse]
  refine reads_stringBody h ?_
  rw [List.length_append]
  omega

end Body

private theorem SpellsChar.takes {control : Reading Char} {c : Char} {piece : List Char}
    (h : SpellsChar c piece) : Takes unicodeEscape control c piece := by
  refine ⟨by cases h <;> exact Nat.succ_pos _, fun hrest => ?_⟩
  cases h with
  | plain hc => exact hrest.stringBody_plain hc
  | letter hc => exact (reads_escape_letter _ hc).stringBody_escape hrest
  | unit hc => exact (reads_escape_unit (reads_unicodeEscape hc)).stringBody_escape hrest
  | pair hfirst hsecond hhigh hlow hc =>
    rw [List.cons_append, List.cons_append, List.append_assoc]
    exact (reads_escape_unit (reads_unicodeEscape_pair hfirst hsecond hhigh hlow
      hc)).stringBody_escape hrest

/-- A string is read as it is spelled. -/
theorem SpellsString.reads {chars text : List Char} (h : SpellsString chars text) :
    Reads string (text ++ s) s chars := by
  obtain ⟨pieces, hpieces, rfl⟩ := h
  rw [List.cons_append, List.append_assoc, List.singleton_append]
  refine (reads_advance '"').bind (Reads.bind_get fun p => ?_)
  refine (reads_stringBody_length (hpieces.imp fun _ _ => SpellsChar.takes)).bind ?_
  rw [List.reverse_reverse]
  exact reads_pure chars

private theorem IsPiece.takes {hex control : Reading Char} {d : Char}
    (hhex : ∀ {n digits s}, IsCodeUnit n digits → Reads hex (digits ++ s) s d) {piece : List Char}
    (h : IsPiece piece) : ∃ c, Takes hex control c piece := by
  cases h with
  | @plain c hc => exact ⟨c, Nat.succ_pos _, fun hrest => hrest.stringBody_plain hc⟩
  | @letter c letter hc =>
    exact ⟨c, Nat.succ_pos _, fun hrest => (reads_escape_letter _ hc).stringBody_escape hrest⟩
  | unit hn =>
    exact ⟨d, Nat.succ_pos _, fun hrest => (reads_escape_unit (hhex hn)).stringBody_escape hrest⟩

/-- A string that nobody asks for is passed. -/
theorem IsString.reads {text : List Char} (h : IsString text) :
    Reads ignoredString (text ++ s) s PUnit.unit := by
  obtain ⟨pieces, hpieces, rfl⟩ := h
  rw [List.cons_append, List.append_assoc, List.singleton_append]
  refine (reads_advance '"').bind (Reads.bind_get fun p => ?_)
  have htakes : ∀ piece ∈ pieces, ∃ c,
      Takes (do let _ ← hexEscape; return ' ') (fail .controlCharacter) c piece := fun piece hmem =>
    (hpieces piece hmem).takes fun hn => (reads_hexEscape hn).bind (reads_pure ' ')
  choose! f hf using htakes
  have hchars := List.forall₂_map_left_iff.mpr (List.forall₂_same.mpr hf)
  exact (reads_stringBody_length hchars).bind (reads_pure _)

/-! ### Numbers -/

theorem Digits.eq_cons {digits : List Char} (h : Digits digits) :
    ∃ d rest, digits = d :: rest ∧ d.isDigit = true := by
  obtain ⟨hne, hall⟩ := h
  cases digits with
  | nil => contradiction
  | cons d rest => exact ⟨d, rest, rfl, hall d List.mem_cons_self⟩

theorem Stops.any_head? {f : Char → Bool} (hs : Stops f s) : s.head?.any f = false := by
  cases s with
  | nil => rfl
  | cons c s => exact hs c rfl

theorem IsWhole.reads {text : List Char} (h : IsWhole text) (hs : Stops Char.isDigit s) :
    Reads ignoredWhole (text ++ s) s PUnit.unit := by
  obtain rfl | ⟨hdigits, hzero⟩ := h
  · rw [List.singleton_append]
    refine reads_next.bind ((reads_advance '0').bind (reads_next.bind ?_))
    rw [if_neg (Bool.eq_false_iff.mp hs.any_head?)]
    exact reads_pure _
  · obtain ⟨d, rest, rfl, hd⟩ := hdigits.eq_cons
    have hne : d ≠ '0' := fun h => hzero (congrArg some h)
    refine reads_next.bind ?_
    simp only [List.cons_append, List.head?_cons, hd, if_neg hne, Bool.not_true, Bool.false_eq_true,
      if_false]
    exact (reads_takeDigits (t := d :: rest) hdigits.2 hs).bind (reads_pure _)

theorem IsFraction.reads {text : List Char} (h : IsFraction text) (hs : Stops Char.isDigit s)
    (hdot : s.head? ≠ some '.') : Reads ignoredFraction (text ++ s) s PUnit.unit := by
  refine reads_next.bind ?_
  obtain rfl | ⟨digits, hdigits, rfl⟩ := h
  · rw [List.nil_append, if_neg hdot]
    exact reads_pure _
  · refine (reads_advance '.').bind ((reads_takeDigits hdigits.2 hs).bind ?_)
    obtain ⟨d, rest, rfl, -⟩ := hdigits.eq_cons
    exact reads_pure _

theorem reads_exponent_digits {digits : List Char} (h : Digits digits) (hs : Stops Char.isDigit s) :
    Reads (do
      if (← next?).any Char.isDigit then
        let _ ← takeDigits
      else failNext .numberInvalid) (digits ++ s) s PUnit.unit := by
  obtain ⟨d, rest, rfl, hd⟩ := h.eq_cons
  refine reads_next.bind ?_
  rw [List.cons_append, List.head?_cons, Option.any_some, if_pos hd]
  exact (reads_takeDigits (t := d :: rest) h.2 hs).bind (reads_pure _)

theorem IsExponent.reads {text : List Char} (h : IsExponent text) (hs : Stops Char.isDigit s)
    (hletter : s.head? ≠ some 'e' ∧ s.head? ≠ some 'E') :
    Reads ignoredExponent (text ++ s) s PUnit.unit := by
  refine reads_next.bind ?_
  obtain rfl | ⟨letter, hmem, sign, hsign, digits, hdigits, rfl⟩ := h
  · rw [List.nil_append, if_neg (not_or.mpr hletter)]
    exact reads_pure _
  · have hletters : some letter = some 'e' ∨ some letter = some 'E' := by simpa using hmem
    rw [List.cons_append, List.head?_cons, if_pos hletters, List.append_assoc]
    refine (reads_advance letter).bind (reads_next.bind ?_)
    simp only [List.mem_cons, List.not_mem_nil, or_false] at hsign
    obtain rfl | rfl | rfl := hsign
    · obtain ⟨d, rest, rfl, hd⟩ := hdigits.eq_cons
      have hne : ¬(some d = some '+' ∨ some d = some '-') := by
        rintro (h | h) <;> cases h <;> exact absurd hd (by decide)
      rw [List.nil_append, List.cons_append, List.head?_cons, if_neg hne]
      exact reads_exponent_digits hdigits hs
    · exact (reads_advance _).bind (reads_exponent_digits hdigits hs)
    · exact (reads_advance _).bind (reads_exponent_digits hdigits hs)

/-- What may follow a value: a blank, a comma or a closing sign. -/
def Ends (text : List Char) : Prop :=
  ∀ c ∈ text.head?, c ∈ [' ', '\n', '\t', '\r', ',', ']', '\x7d']

theorem ends_cons {c : Char} (h : c ∈ [' ', '\n', '\t', '\r', ',', ']', '\x7d']) : Ends (c :: s) :=
  fun _ hd => Option.some.inj hd ▸ h

theorem Ends.append (hs : Ends s) (hb : Blanks b) : Ends (b ++ s) := by
  cases b with
  | nil => exact hs
  | cons c b =>
    refine ends_cons ?_
    have hc := hb c List.mem_cons_self
    simp only [List.mem_cons] at hc ⊢
    tauto

theorem not_isDigit_of_mem_ends {c : Char}
    (h : c ∈ [' ', '\n', '\t', '\r', ',', ']', '\x7d']) : c.isDigit = false := by
  have hall : [' ', '\n', '\t', '\r', ',', ']', '\x7d'].all (·.isDigit = false) := by decide
  exact of_decide_eq_true (List.all_eq_true.mp hall c h)

/-- What may follow a value does not continue a number. -/
theorem Ends.spec (hs : Ends s) : Stops Char.isDigit s ∧ s.head? ≠ some '.' ∧
    s.head? ≠ some 'e' ∧ s.head? ≠ some 'E' := by
  refine ⟨fun c hc => ?_, fun h => ?_, fun h => ?_, fun h => ?_⟩
  · exact not_isDigit_of_mem_ends (hs c hc)
  all_goals exact absurd (hs _ h) (by decide)

/-- Neither a fraction nor an exponent continues the digits before it. -/
private theorem IsExponent.stops {text : List Char} (h : IsExponent text) (hs : Ends s) :
    Stops Char.isDigit (text ++ s) ∧ (text ++ s).head? ≠ some '.' := by
  obtain rfl | ⟨letter, hmem, sign, -, digits, -, rfl⟩ := h
  · exact ⟨hs.spec.1, hs.spec.2.1⟩
  · simp only [List.mem_cons, List.not_mem_nil, or_false] at hmem
    obtain rfl | rfl := hmem <;> exact ⟨stops_cons rfl, by simp⟩

private theorem IsFraction.stops {text : List Char} (h : IsFraction text)
    (hs : Stops Char.isDigit s) : Stops Char.isDigit (text ++ s) := by
  obtain rfl | ⟨digits, -, rfl⟩ := h
  · exact hs
  · exact stops_cons rfl

/-- A number is passed behind its sign, if it has one, and begins with a digit there. -/
theorem IsNumber.reads {text : List Char} (h : IsNumber text) :
    ∃ d rest, (text = d :: rest ∨ text = '-' :: d :: rest) ∧ d.isDigit = true ∧
      ∀ s, Ends s → Reads ignoredNumber (d :: rest ++ s) s PUnit.unit := by
  obtain ⟨sign, hsign, whole, fraction, exponent, hwhole, hfraction, hexponent, rfl⟩ := h
  obtain ⟨d, rest, rfl, hd⟩ : ∃ d rest, whole = d :: rest ∧ d.isDigit = true := by
    obtain rfl | ⟨hdigits, -⟩ := hwhole
    · exact ⟨'0', [], rfl, rfl⟩
    · exact hdigits.eq_cons
  refine ⟨d, rest ++ (fraction ++ exponent), ?_, hd, fun s hs => ?_⟩
  · simp only [List.mem_cons, List.not_mem_nil, or_false] at hsign
    exact hsign.imp (fun h => by rw [h]; rfl) (fun h => by rw [h]; rfl)
  · obtain ⟨hstop, hdot⟩ := hexponent.stops hs
    rw [← List.cons_append, List.append_assoc, List.append_assoc]
    exact (hwhole.reads (hfraction.stops hstop)).bind
      ((hfraction.reads hstop hdot).bind (hexponent.reads hs.spec.1 hs.spec.2.2))

end Json

end Timekeeper
