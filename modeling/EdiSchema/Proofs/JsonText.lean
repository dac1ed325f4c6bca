import EdiSchema.Json.Decode
import EdiSchema.Json.Render
import EdiSchema.Proofs.JsonGrammar

/-!
# Texts and numbers as they are written

A text that is written between quotes spells the characters that it has: the escape of each
character is one of the spellings of its code point (`Spelling.escapeChar`), and the code points of
characters are never surrogates, so nothing is joined and nothing lost (`characters?_codes`). The
decimal digits of a natural number are one of the forms of a number.
-/

namespace EdiSchema.Json

/-! ## Escapes -/

theorem hexValue?_hexDigit : ∀ n < 16, hexValue? (hexDigit n) = some n := by decide

/-- The escape of a control character spells its code. -/
theorem hexValue4?_escapeCode {c : Char} (h : c.toNat < 0x20) :
    hexValue4? '0' '0' (hexDigit (c.toNat / 16)) (hexDigit (c.toNat % 16)) = some c.toNat := by
  have hzero : hexValue? '0' = some 0 := by decide
  have hhigh := hexValue?_hexDigit (c.toNat / 16) (by omega)
  have hlow := hexValue?_hexDigit (c.toNat % 16) (by omega)
  have hcode : ((0 * 16 + 0) * 16 + c.toNat / 16) * 16 + c.toNat % 16 = c.toNat := by omega
  simp only [hexValue4?, hzero, hhigh, hlow, Option.bind_eq_bind, Option.bind_some, Option.pure_def,
    hcode]

/-- A letter spells its character. -/
theorem Spelling.escapeChar (c : Char) {codes : List Nat} {body : List Char}
    (h : Spelling codes body) : Spelling (c.toNat :: codes) (Json.escapeChar c ++ body) := by
  unfold Json.escapeChar
  split
  · next hc => subst hc; exact h.letter (by decide)
  split
  · next hc => subst hc; exact h.letter (by decide)
  split
  · next hc => subst hc; exact h.letter (by decide)
  split
  · next hc => subst hc; exact h.letter (by decide)
  split
  · next hc => subst hc; exact h.letter (by decide)
  split
  · next hc => subst hc; exact h.letter (by decide)
  split
  · next hc => subst hc; exact h.letter (by decide)
  split
  · next hc => exact h.code (hexValue4?_escapeCode hc)
  · exact h.plain ‹_› ‹_› ‹_›

/-- Characters that are escaped where they have to be are spelled. -/
theorem spelling_escaped (cs : List Char) :
    Spelling (cs.map Char.toNat) (cs.flatMap escapeChar) := by
  induction cs with
  | nil => exact .nil
  | cons c cs ih => exact ih.escapeChar c

/-! ## Code points -/

/-- A character is no half of a surrogate pair. -/
theorem not_surrogate (c : Char) :
    isHighSurrogate c.toNat = false ∧ isLowSurrogate c.toNat = false := by
  have hvalid : c.toNat < 0xD800 ∨ 0xDFFF < c.toNat ∧ c.toNat < 0x110000 := c.valid
  simp [isHighSurrogate, isLowSurrogate]
  omega

/-- Code points of characters stand for these characters. -/
theorem characters?_codes (cs : List Char) : characters? (cs.map Char.toNat) = some cs := by
  induction cs with
  | nil => rfl
  | cons c cs ih =>
    obtain ⟨hhigh, hlow⟩ := not_surrogate c
    cases cs with
    | nil => simp [characters?, hhigh, hlow]
    | cons d ds =>
      rw [List.map_cons, List.map_cons] at *
      simp [characters?, hhigh, hlow, ih]

/-- The codes of a text are read as the text. -/
theorem textOf_codes (s : String) : textOf (s.toList.map Char.toNat) = .string s := by
  rw [textOf, characters?_codes, Option.map_some, String.ofList_toList]
  rfl

/-- A text between quotes is one of the ways to write it. -/
theorem written_quote (s : String) : Token.Written (.scalar (.string s)) (quote s) := by
  rw [← textOf_codes]
  exact .text (spelling_escaped s.toList)

/-! ## Numbers -/

/-- Decimal digits are a number. -/
theorem isNumber_toDigits (n : Nat) : IsNumber (Nat.toDigits 10 n) := by
  have hdigits : IsDigits (Nat.toDigits 10 n) :=
    ⟨Nat.toDigits_ne_nil, fun _ => isDigit_of_mem_toDigits⟩
  have hwhole : IsWhole (Nat.toDigits 10 n) := by
    refine ⟨hdigits, fun hzero => ?_⟩
    by_cases hn : n = 0
    · subst hn
      rfl
    · exact absurd hzero (head_toDigits hn)
  have h := IsMagnitude.parts hwhole .absent .absent
  rw [List.append_nil, List.append_nil] at h
  exact .positive h

theorem written_natural (n : Nat) :
    Token.Written (.scalar (.natural n)) (Value.natural n).chars := by
  have hchars : (Value.natural n).chars = Nat.toDigits 10 n := by
    rw [Value.natural, Value.chars, Nat.repr, String.toList_ofList]
  rw [hchars]
  exact .number (isNumber_toDigits n)

/-- The digits of a number stand for it. -/
theorem naturalOf?_repr (n : Nat) : naturalOf? (Nat.repr n) = some n := by
  have hall : (Nat.toDigits 10 n).all Char.isDigit :=
    List.all_eq_true.mpr fun _ => isDigit_of_mem_toDigits
  rw [naturalOf?, Nat.repr, String.toList_ofList, if_pos hall, Nat.ofDigitChars_ten_toDigits]

end EdiSchema.Json
