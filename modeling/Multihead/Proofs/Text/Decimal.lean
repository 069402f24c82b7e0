/-!
# The decimal of a number

A number has exactly one decimal without leading zeros, the one that it is written in
(`isDecimal_iff`). Reading digits one by one appends them to the digits of what was read before, as
long as that is not zero (`toDigits_append_digits`); a leading zero would be lost.
-/

namespace Multihead.Text

/-- Whether a text is the decimal of a number: it consists of digits, has the number as its value,
and does not begin with a zero unless it is that zero alone. -/
structure IsDecimal (text : List Char) (n : Nat) : Prop where
  nonempty : text ≠ []
  digits : ∀ c ∈ text, c.isDigit = true
  unpadded : text.head? = some '0' → text = ['0']
  value : Nat.ofDigitChars 10 text 0 = n

variable {text ds : List Char} {c : Char} {n : Nat}

theorem digit_lt_ten (hc : c.isDigit = true) : c.toNat - '0'.toNat < 10 := by
  obtain ⟨hlow, hhigh⟩ := Char.isDigit_iff_toNat.1 hc
  have hzero : '0'.toNat = 48 := rfl
  have hnine : '9'.toNat = 57 := rfl
  omega

theorem toDigits_digit (hc : c.isDigit = true) : Nat.toDigits 10 (c.toNat - '0'.toNat) = [c] := by
  have hlt := digit_lt_ten hc
  rw [Nat.toDigits_of_lt_base hlt, List.cons.injEq]
  refine ⟨Char.toNat_inj.1 ?_, rfl⟩
  rw [Nat.toNat_digitChar_of_lt_ten hlt]
  obtain ⟨hlow, -⟩ := Char.isDigit_iff_toNat.1 hc
  have hzero : '0'.toNat = 48 := rfl
  omega

/-- Digits read after a number that is not zero are appended to its own. -/
theorem toDigits_append_digits (hds : ∀ d ∈ ds, d.isDigit = true) (hn : 0 < n) :
    Nat.toDigits 10 n ++ ds = Nat.toDigits 10 (Nat.ofDigitChars 10 ds n) := by
  induction ds generalizing n with
  | nil => simp [Nat.ofDigitChars]
  | cons d ds ih =>
    obtain ⟨hd, hds⟩ := List.forall_mem_cons.1 hds
    have hstep : Nat.toDigits 10 n ++ [d] = Nat.toDigits 10 (10 * n + (d.toNat - '0'.toNat)) := by
      rw [← toDigits_digit hd]
      exact Nat.toDigits_append_toDigits (by decide) hn (digit_lt_ten hd)
    have hpos : 0 < 10 * n + (d.toNat - '0'.toNat) := by omega
    rw [List.append_cons, hstep, ih hds hpos, Nat.ofDigitChars_cons]

theorem IsDecimal.eq_toDigits (h : IsDecimal text n) : text = Nat.toDigits 10 n := by
  obtain ⟨hne, hdigits, hunpadded, hvalue⟩ := h
  cases text with
  | nil => exact absurd rfl hne
  | cons c ds =>
    obtain ⟨hc, hds⟩ := List.forall_mem_cons.1 hdigits
    rw [Nat.ofDigitChars_cons, Nat.mul_zero, Nat.zero_add] at hvalue
    by_cases hzero : c = '0'
    · -- the zero stands alone
      have halone : c :: ds = ['0'] := hunpadded (by rw [hzero]; rfl)
      obtain ⟨-, rfl⟩ := List.cons.inj halone
      rw [← hvalue]
      exact (toDigits_digit hc).symm
    · have hpos : 0 < c.toNat - '0'.toNat := by
        obtain ⟨hlow, -⟩ := Char.isDigit_iff_toNat.1 hc
        have hne : c.toNat ≠ '0'.toNat := fun h => hzero (Char.toNat_inj.1 h)
        omega
      rw [← hvalue, ← toDigits_append_digits hds hpos, toDigits_digit hc]
      rfl

/-- The digits of a number that is not zero do not begin with a zero. -/
theorem head?_toDigits_ne_zero (hn : 0 < n) : (Nat.toDigits 10 n).head? ≠ some '0' := by
  induction n using Nat.strongRecOn with
  | ind n ih =>
    by_cases hlt : n < 10
    · rw [Nat.toDigits_of_lt_base hlt]
      intro hhead
      have hchar : n.digitChar = '0' := Option.some.inj hhead
      have hvalue := Nat.toNat_digitChar_of_lt_ten hlt
      rw [hchar] at hvalue
      have hzero : '0'.toNat = 48 := rfl
      omega
    · -- the first digit is that of the number without its last digit
      have hfirst := ih (n / 10) (by omega) (by omega)
      have hne : Nat.toDigits 10 (n / 10) ≠ [] := Nat.toDigits_ne_nil
      obtain ⟨d, ds, hds⟩ := List.exists_cons_of_ne_nil hne
      rw [Nat.toDigits_of_base_le (by decide) (by omega), hds]
      rw [hds] at hfirst
      exact hfirst

theorem isDecimal_toDigits (n : Nat) : IsDecimal (Nat.toDigits 10 n) n where
  nonempty := Nat.toDigits_ne_nil
  digits _ hc := Nat.isDigit_of_mem_toDigits (by decide) (by decide) hc
  unpadded hhead := by
    by_cases hn : n = 0
    · rw [hn]
      exact Nat.toDigits_zero 10
    · exact absurd hhead (head?_toDigits_ne_zero (by omega))
  value := Nat.ofDigitChars_ten_toDigits

/-- A number has one decimal, the one that it is written in. -/
theorem isDecimal_iff : IsDecimal text n ↔ text = (toString n).toList := by
  rw [Nat.toString_eq_repr, Nat.toList_repr]
  constructor
  · intro h
    exact h.eq_toDigits
  · intro h
    rw [h]
    exact isDecimal_toDigits n

theorem isDecimal_toString (n : Nat) : IsDecimal (toString n).toList n := isDecimal_iff.2 rfl

end Multihead.Text
