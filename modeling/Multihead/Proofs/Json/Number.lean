import Multihead.Json.Number
import Multihead.Proofs.Json.Written

/-!
# Numbers that are taken

A number that keeps to the grammar is taken up to where it ends (`take_of_isNumber`). A written
integer is such a number without a fraction and an exponent, whose digits are the decimal of its
size (`isNumber_integerText`), and a size that fits into the significand is far below the doubles'
limit (`isTooLarge_ofInteger`).
-/

namespace Multihead.Json

open Text

namespace Number

/-! ## Size -/

theorem le_ofDigitChars (digits : List Char) (n : Nat) : n ≤ Nat.ofDigitChars 10 digits n := by
  induction digits generalizing n with
  | nil => exact Nat.le_refl n
  | cons c digits ih =>
    rw [Nat.ofDigitChars_cons]
    exact Nat.le_trans (by omega) (ih _)

/-- Digits whose value fits are all collected. -/
theorem collect_eq {digits : List Char} {n : Nat}
    (h : Nat.ofDigitChars 10 digits n ≤ maxSignificand) :
    collect n digits = (Nat.ofDigitChars 10 digits n, []) := by
  induction digits generalizing n with
  | nil => rfl
  | cons c digits ih =>
    rw [Nat.ofDigitChars_cons] at h ⊢
    rw [collect, if_pos (Nat.le_trans (le_ofDigitChars digits _) h)]
    exact ih h

/-- Rounding does not double a number. -/
theorem nearestDouble_le (n : Nat) : nearestDouble n ≤ 2 * n := by
  by_cases hzero : n = 0
  · rw [hzero]
    decide
  · have hunit : Nat.pow 2 (n.log2 - 52) ≤ n :=
      Nat.le_trans (Nat.pow_le_pow_right (by decide) (Nat.sub_le _ _)) (Nat.log2_self_le hzero)
    have hquotient : n / Nat.pow 2 (n.log2 - 52) * Nat.pow 2 (n.log2 - 52) ≤ n :=
      Nat.div_mul_le_self _ _
    unfold nearestDouble
    dsimp only
    split
    · omega
    · rw [Nat.add_mul]
      omega

/-- A significand alone is no number that is too large. -/
theorem exceedsDouble_zero {significand : Nat} (h : significand ≤ maxSignificand) :
    exceedsDouble significand 0 = false := by
  have hlimit : 2 * maxSignificand < doubleLimit := by decide +kernel
  have hone : nearestDouble (Nat.pow 10 0) = 1 := by decide
  have hle := nearestDouble_le significand
  have hbelow : ¬ doubleLimit ≤ nearestDouble significand * nearestDouble (Nat.pow 10 0) := by
    rw [hone, Nat.mul_one]
    omega
  have hpower : ¬ (maxPower : Int) < 0 := by decide
  simp only [exceedsDouble, Int.toNat_zero, hbelow, hpower, decide_false, Bool.or_false,
    Bool.and_false]

/-! ## Integers as numbers -/

/-- An integer as it is written: a sign if it is negative, and the decimal of its size. -/
def ofInteger (n : Int) : Number where
  negative := decide (n < 0)
  whole := (toString n.natAbs).toList
  fraction := []
  exponent := none

theorem isTooLarge_ofInteger {n : Int} (h : n.natAbs ≤ maxSignificand) :
    (ofInteger n).isTooLarge = false := by
  have hvalue := (isDecimal_toString n.natAbs).value
  have hcollect : collect 0 (ofInteger n).whole = (n.natAbs, []) := by
    rw [← hvalue] at h
    rw [ofInteger, collect_eq h, hvalue]
  have hscaled : (ofInteger n).scaled = (n.natAbs, 0) := by
    rw [scaled, hcollect]
    rfl
  rw [isTooLarge, hscaled]
  exact exceedsDouble_zero h

theorem integer?_ofInteger (n : Int) : (ofInteger n).integer? = some n := by
  have hvalue : Nat.ofDigitChars 10 (ofInteger n).whole 0 = n.natAbs :=
    (isDecimal_toString n.natAbs).value
  -- the one text that looks like an integer and is none, a negative zero, is not written
  have hproper : ¬ (n < 0 ∧ (ofInteger n).whole = ['0']) := by
    intro ⟨hneg, hwhole⟩
    rw [hwhole] at hvalue
    have hzero : Nat.ofDigitChars 10 ['0'] 0 = 0 := by decide
    omega
  have hcondition : ((ofInteger n).fraction.isEmpty && (ofInteger n).exponent.isNone &&
      !((ofInteger n).negative && (ofInteger n).whole = ['0'])) = true := by
    have hnegative : (ofInteger n).negative = decide (n < 0) := rfl
    rw [hnegative, ← Bool.decide_and, decide_eq_false hproper]
    rfl
  rw [integer?, if_pos hcondition, hvalue]
  by_cases hneg : n < 0
  · simp only [ofInteger, hneg, decide_true, if_true]
    congr 1
    omega
  · simp only [ofInteger, hneg, decide_false, Bool.false_eq_true, if_false]
    congr 1
    omega

/-! ## Taking a number -/

structure IsDigits (digits : List Char) : Prop where
  nonempty : digits ≠ []
  digits : ∀ c ∈ digits, c.isDigit = true

/-- A fraction, which may be missing, and its digits. -/
inductive IsFraction : List Char → List Char → Prop
  | none : IsFraction [] []
  | digits {digits : List Char} (h : IsDigits digits) : IsFraction ('.' :: digits) digits

/-- An exponent, which may be missing, and its sign and digits. -/
inductive IsExponent : List Char → Option (Bool × List Char) → Prop
  | none : IsExponent [] none
  | digits {letter : Char} {sign digits : List Char} {negative : Bool}
    (hletter : letter = 'e' ∨ letter = 'E')
    (hsign : (sign, negative) ∈ [([], false), (['+'], false), (['-'], true)])
    (h : IsDigits digits) : IsExponent (letter :: (sign ++ digits)) (some (negative, digits))

/-- A number as the grammar has it. Its whole part starts with a zero only if it is a lone zero. -/
inductive IsNumber : List Char → Number → Prop
  | mk {sign whole fraction fractionDigits exponentForm : List Char} {negative : Bool}
    {exponent : Option (Bool × List Char)}
    (hsign : (sign, negative) ∈ [([], false), (['-'], true)]) (hwhole : IsDigits whole)
    (hunpadded : whole.head? = some '0' → whole.length = 1)
    (hfraction : IsFraction fraction fractionDigits)
    (hexponent : IsExponent exponentForm exponent) :
    IsNumber (sign ++ (whole ++ (fraction ++ exponentForm)))
      ⟨negative, whole, fractionDigits, exponent⟩

variable {digits form rest : List Char} {exponent : Option (Bool × List Char)} (atEnd : Fault)

theorem IsDigits.exists_cons (h : IsDigits digits) :
    ∃ c more, digits = c :: more ∧ c.isDigit = true := by
  obtain ⟨c, more, hcons⟩ := List.exists_cons_of_ne_nil h.nonempty
  exact ⟨c, more, hcons, h.digits c (hcons ▸ List.mem_cons_self)⟩

theorem takeDigits_append (h : IsDigits digits) (hend : ∀ c ∈ rest.head?, c.isDigit = false) :
    takeDigits atEnd (digits ++ rest) = .ok (digits, rest) := by
  obtain ⟨c, more, rfl, hc⟩ := h.exists_cons
  have hrest : rest.takeWhile Char.isDigit = [] ∧ rest.dropWhile Char.isDigit = rest := by
    cases rest with
    | nil => exact ⟨rfl, rfl⟩
    | cons d rest =>
      have hd : ¬ d.isDigit = true := by simp [hend d rfl]
      exact ⟨List.takeWhile_cons_of_neg hd, List.dropWhile_cons_of_neg hd⟩
  rw [List.cons_append, takeDigits, if_pos hc, ← List.cons_append,
    List.takeWhile_append_of_pos h.digits, List.dropWhile_append_of_pos h.digits, hrest.1, hrest.2,
    List.append_nil]

theorem takeWhole_append (h : IsDigits digits)
    (hunpadded : digits.head? = some '0' → digits.length = 1)
    (hend : ∀ c ∈ rest.head?, c.isDigit = false) :
    takeWhole atEnd (digits ++ rest) = .ok (digits, rest) := by
  simp only [takeWhole, takeDigits_append atEnd h hend, bind, Except.bind]
  exact if_neg (by simpa using hunpadded)

/-- What follows the whole part or the fraction. -/
theorem IsExponent.head?_append (h : IsExponent form exponent) (hend : EndsNumber rest) :
    ∀ c ∈ (form ++ rest).head?, c.isDigit = false ∧ c ≠ '.' := by
  cases h with
  | none => exact fun c hc => ⟨(hend c hc).1, (hend c hc).2.1⟩
  | digits hletter _ _ =>
    rintro c hc
    obtain rfl := Option.some.inj hc
    rcases hletter with rfl | rfl <;> decide

theorem takeFraction_append (h : IsFraction form digits)
    (hend : ∀ c ∈ rest.head?, c.isDigit = false ∧ c ≠ '.') :
    takeFraction atEnd (form ++ rest) = .ok (digits, rest) := by
  cases h with
  | none =>
    unfold takeFraction
    split
    · next htext => exact absurd rfl (hend '.' (by rw [← List.nil_append rest, htext]; rfl)).2
    · rfl
  | digits h => exact takeDigits_append atEnd h fun c hc => (hend c hc).1

theorem takeExponent_append (h : IsExponent form exponent) (hend : EndsNumber rest) :
    takeExponent atEnd (form ++ rest) = .ok (exponent, rest) := by
  cases h with
  | none =>
    cases rest with
    | nil => rfl
    | cons c rest =>
      obtain ⟨-, -, hlower, hupper⟩ := hend c rfl
      simp only [List.nil_append, takeExponent, hlower, hupper, decide_false, Bool.or_self,
        Bool.false_eq_true, if_false]
  | @digits letter sign digits negative hletter hsign h =>
    have htake := takeDigits_append atEnd h fun c hc => (hend c hc).1
    obtain ⟨c, more, rfl, hc⟩ := h.exists_cons
    have hletter' : (letter = 'e' || letter = 'E') = true := by simpa using hletter
    have hplus : c ≠ '+' := by rintro rfl; cases hc
    have hminus : c ≠ '-' := by rintro rfl; cases hc
    simp only [List.cons_append] at htake
    simp only [List.mem_cons, Prod.mk.injEq, List.not_mem_nil, or_false] at hsign
    rcases hsign with ⟨rfl, rfl⟩ | ⟨rfl, rfl⟩ | ⟨rfl, rfl⟩ <;>
      simp [takeExponent, hletter', hplus, hminus, htake, bind, Except.bind]

/-- A number begins with its sign or a digit. -/
theorem IsNumber.exists_cons {n : Number} (h : IsNumber form n) :
    ∃ c more, form = c :: more ∧ startsNumber c = true := by
  obtain ⟨hsign, hwhole, -, -, -⟩ := h
  obtain ⟨c, more, rfl, hc⟩ := hwhole.exists_cons
  simp only [List.mem_cons, Prod.mk.injEq, List.not_mem_nil, or_false] at hsign
  rcases hsign with ⟨rfl, -⟩ | ⟨rfl, -⟩
  · exact ⟨c, _, rfl, by simp [startsNumber, hc]⟩
  · exact ⟨'-', _, rfl, rfl⟩

/-- A number is taken up to where it ends. -/
theorem take_of_isNumber {n : Number} (h : IsNumber form n) (hend : EndsNumber rest) :
    take atEnd (form ++ rest) = .ok (n, rest) := by
  obtain ⟨hsign, hwhole, hunpadded, hfraction, hexponent⟩ := h
  next sign whole fraction fractionDigits exponentForm negative exponent =>
    have hhead := hexponent.head?_append hend
    have hhead' : ∀ c ∈ (fraction ++ (exponentForm ++ rest)).head?, c.isDigit = false := by
      cases hfraction with
      | none => exact fun c hc => (hhead c hc).1
      | digits _ =>
        rintro c hc
        obtain rfl := Option.some.inj hc
        rfl
    have htakeWhole := takeWhole_append atEnd hwhole hunpadded hhead'
    have htakeFraction := takeFraction_append atEnd hfraction hhead
    have htakeExponent := takeExponent_append atEnd hexponent hend
    obtain ⟨c, more, rfl, hc⟩ := hwhole.exists_cons
    have hminus : c ≠ '-' := by rintro rfl; cases hc
    simp only [List.cons_append] at htakeWhole
    simp only [List.mem_cons, Prod.mk.injEq, List.not_mem_nil, or_false] at hsign
    rcases hsign with ⟨rfl, rfl⟩ | ⟨rfl, rfl⟩ <;>
      simp [take, hminus, htakeWhole, htakeFraction, htakeExponent, bind, Except.bind]

theorem isNumber_integerText (n : Int) : IsNumber (Value.integerText n) (ofInteger n) := by
  have hnatural (k : Nat) : IsDigits (toString k).toList ∧
      ((toString k).toList.head? = some '0' → (toString k).toList.length = 1) := by
    have hdecimal := isDecimal_toString k
    refine ⟨⟨hdecimal.nonempty, hdecimal.digits⟩, fun hhead => ?_⟩
    rw [hdecimal.unpadded hhead]
    rfl
  obtain ⟨hdigits, hunpadded⟩ := hnatural n.natAbs
  cases n with
  | ofNat k =>
    have hnumber : IsNumber ([] ++ ((toString k).toList ++ ([] ++ [])))
        ⟨false, (toString k).toList, [], none⟩ :=
      .mk (by simp) hdigits hunpadded .none .none
    rwa [List.append_nil, List.append_nil, List.nil_append] at hnumber
  | negSucc k =>
    have hnumber : IsNumber (['-'] ++ ((toString (k + 1)).toList ++ ([] ++ [])))
        ⟨true, (toString (k + 1)).toList, [], none⟩ :=
      .mk (by simp) hdigits hunpadded .none .none
    have hnegative : decide (Int.negSucc k < 0) = true := decide_eq_true (Int.negSucc_lt_zero k)
    rw [List.append_nil, List.append_nil, List.singleton_append] at hnumber
    rw [integerText_negSucc, ofInteger, hnegative]
    exact hnumber

end Number

end Multihead.Json
