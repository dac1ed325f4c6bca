import EdiSchema.Bound

/-!
# Decimal digits

Counts and ids are written in decimal digits: at least one, none of them superfluous. The digits
determine the number, and so does the text of an upper bound determine the bound.
-/

namespace EdiSchema

/-- What holds of each code below a limit holds of the characters below it. -/
theorem of_toNat_lt {limit : Nat} {P : Char → Prop} (h : ∀ n < limit, P (Char.ofNat n)) {c : Char}
    (hc : c.toNat < limit) : P c := by
  have hn := h c.toNat hc
  rwa [Char.ofNat_toNat] at hn

theorem toNat_of_isDigit {c : Char} (h : c.isDigit) : 48 ≤ c.toNat ∧ c.toNat ≤ 57 := by
  obtain ⟨hlow, hhigh⟩ := Bool.and_eq_true_iff.mp h
  exact ⟨of_decide_eq_true hlow, of_decide_eq_true hhigh⟩

theorem isDigit_of_mem_toDigits {n : Nat} {c : Char} (h : c ∈ Nat.toDigits 10 n) : c.isDigit :=
  Nat.isDigit_of_mem_toDigits (by decide) (by decide) h

theorem exists_toDigits_eq_cons (n : Nat) :
    ∃ c cs, Nat.toDigits 10 n = c :: cs ∧ c.isDigit := by
  obtain ⟨c, cs, hdigits⟩ := List.exists_cons_of_ne_nil (Nat.toDigits_ne_nil (n := n) (b := 10))
  exact ⟨c, cs, hdigits, isDigit_of_mem_toDigits (hdigits ▸ List.mem_cons_self)⟩

/-- Only zero has digits that start with a zero. -/
theorem head_toDigits {n : Nat} (h : n ≠ 0) : (Nat.toDigits 10 n).head? ≠ some '0' := by
  induction n using Nat.strongRecOn with
  | ind n ih =>
    by_cases hsmall : n < 10
    · have hdigits : ∀ d < 10, d ≠ 0 → (Nat.toDigits 10 d).head? ≠ some '0' := by decide
      exact hdigits n hsmall h
    · have hfirst := ih (n / 10) (Nat.div_lt_self (Nat.pos_of_ne_zero h) (by decide)) (by omega)
      obtain ⟨c, cs, hcs, _⟩ := exists_toDigits_eq_cons (n / 10)
      rw [Nat.toDigits_of_base_le (by decide) (Nat.le_of_not_lt hsmall), hcs]
      rwa [hcs] at hfirst

/-- The digits of a count determine it. -/
theorem decimal_inj {m n : UInt32} (h : decimal m = decimal n) : m = n := by
  have hdigits : Nat.toDigits 10 m.toNat = Nat.toDigits 10 n.toNat := String.ofList_injective h
  have hnat : m.toNat = n.toNat :=
    calc m.toNat
        = Nat.ofDigitChars 10 (Nat.toDigits 10 m.toNat) 0 := Nat.ofDigitChars_ten_toDigits.symm
      _ = Nat.ofDigitChars 10 (Nat.toDigits 10 n.toNat) 0 := by rw [hdigits]
      _ = n.toNat := Nat.ofDigitChars_ten_toDigits
  exact UInt32.toNat_inj.mp hnat

/-- The text of a bound determines it: no digits start with a minus sign. -/
theorem UpperBound.text_inj {a b : UpperBound} (h : a.text = b.text) : a = b := by
  have hdigits : ∀ n : UInt32, decimal n ≠ "-1" := by
    intro n heq
    obtain ⟨c, cs, hcs, hc⟩ := exists_toDigits_eq_cons n.toNat
    have hminus : c :: cs = ['-', '1'] :=
      hcs.symm.trans (String.ofList_injective (heq : _ = String.ofList ['-', '1']))
    cases hminus
    exact absurd hc (by decide)
  cases a with
  | bounded m =>
    cases b with
    | bounded n => rw [decimal_inj h]
    | unbounded => exact absurd h (hdigits m)
  | unbounded =>
    cases b with
    | bounded n => exact absurd h.symm (hdigits n)
    | unbounded => rfl

end EdiSchema
