import Multihead.Json.Scalar

/-!
# Spelled texts

A text can be spelled in many ways between its marks: a character stands for itself, or for a letter
behind a backslash, or for one or two code units in hexadecimal digits (`Spells`). A reader gets the
text from any of its spellings (`textBody_of_spells`), that of the writer among them
(`spells_escapeText`). Where nobody asks for the text, it only has to keep to the grammar, and its
code units need not make characters (`TextBody`, `takeText_of_textBody`).
-/

namespace Multihead.Json

/-- Four hexadecimal digits, and the code unit that they give. -/
inductive UnitDigits : List Char → Nat → Prop
  | mk {a b c d : Char} {i j k l : Nat} (ha : Text.hexDigit? a = some i)
    (hb : Text.hexDigit? b = some j) (hc : Text.hexDigit? c = some k)
    (hd : Text.hexDigit? d = some l) : UnitDigits [a, b, c, d] (16 * (16 * (16 * i + j) + k) + l)

/-- What stands between the marks of a text, and the characters that it stands for. -/
inductive Spells : List Char → List Char → Prop
  | nil : Spells [] []
  | plain {c : Char} {body chars : List Char} (hmark : c ≠ '"') (hescape : c ≠ '\\')
    (hplain : firstPlain ≤ c.toNat) (h : Spells body chars) : Spells (c :: body) (c :: chars)
  | letter {letter c : Char} {body chars : List Char} (hletter : unescapeLetter letter = some c)
    (h : Spells body chars) : Spells ('\\' :: letter :: body) (c :: chars)
  | unit {digits body chars : List Char} {unit : Nat} (hunit : UnitDigits digits unit)
    (hopens : opensPair unit = false) (hcloses : closesPair unit = false)
    (h : Spells body chars) :
    Spells ('\\' :: 'u' :: (digits ++ body)) (Char.ofNat unit :: chars)
  | pair {digits digits' body chars : List Char} {opening closing : Nat}
    (hopening : UnitDigits digits opening) (hopens : opensPair opening = true)
    (hclosing : UnitDigits digits' closing) (hcloses : closesPair closing = true)
    (h : Spells body chars) :
    Spells ('\\' :: 'u' :: (digits ++ '\\' :: 'u' :: (digits' ++ body)))
      (pairedChar opening closing :: chars)

/-- What may stand between the marks of a text that nobody asks for. -/
inductive TextBody : List Char → Prop
  | nil : TextBody []
  | plain {c : Char} {body : List Char} (hmark : c ≠ '"') (hescape : c ≠ '\\')
    (hplain : firstPlain ≤ c.toNat) (h : TextBody body) : TextBody (c :: body)
  | letter {letter c : Char} {body : List Char} (hletter : unescapeLetter letter = some c)
    (h : TextBody body) : TextBody ('\\' :: letter :: body)
  | unit {digits body : List Char} {unit : Nat} (hunit : UnitDigits digits unit)
    (h : TextBody body) : TextBody ('\\' :: 'u' :: (digits ++ body))

variable {joined : Bool} {opening : Option Nat} {unit : Nat} {c letter : Char}
  {digits body chars found rest : List Char}

/-! ## One character -/

attribute [local simp] takeText

theorem takeText_plain (hmark : c ≠ '"') (hescape : c ≠ '\\') (hplain : firstPlain ≤ c.toNat) :
    takeText joined .plain found (c :: rest) = takeText joined .plain (c :: found) rest := by
  rw [takeText, if_neg hmark, if_neg hescape, if_neg (Nat.not_lt.2 hplain)]

theorem takeText_letter (hletter : unescapeLetter letter = some c) :
    takeText joined .plain found ('\\' :: letter :: rest) =
      takeText joined .plain (c :: found) rest := by
  have hu : letter ≠ 'u' := by
    rintro rfl
    cases hletter
  simp [hu, hletter]

theorem beginUnit_append (h : UnitDigits digits unit) (opening : Option Nat) (rest : List Char) :
    beginUnit opening (digits ++ rest) = .ok (.unit opening 3 0) := by
  obtain ⟨_, _, _, _⟩ := h
  next a b c d _ _ _ _ _ _ _ _ =>
    have := a.utf8Size_pos
    have := b.utf8Size_pos
    have := c.utf8Size_pos
    have := d.utf8Size_pos
    refine if_neg ?_
    simp only [List.cons_append, List.nil_append, List.take_succ_cons, List.take_zero,
      String.ofList_cons, String.utf8ByteSize_append, String.utf8ByteSize_singleton]
    omega

/-- The digits of a code unit are taken one by one, and then it is ended. -/
theorem takeText_unit (h : UnitDigits digits unit) :
    takeText joined (.unit opening 3 0) found (digits ++ rest) = (do
      let (state, complete) ← endUnit joined opening unit
      takeText joined state (complete ++ found) rest) := by
  obtain ⟨ha, hb, hc, hd⟩ := h
  simp only [List.cons_append, List.nil_append, takeText, ha, hb, hc, hd, Nat.mul_zero,
    Nat.zero_add]

/-- A code unit behind a backslash. -/
theorem takeText_escapedUnit (h : UnitDigits digits unit) :
    takeText joined .plain found ('\\' :: 'u' :: (digits ++ rest)) = (do
      let (state, complete) ← endUnit joined none unit
      takeText joined state (complete ++ found) rest) := by
  have hbegin := beginUnit_append h none rest
  rw [← takeText_unit h]
  simp [hbegin, bind, Except.bind]

/-- A closing unit behind its opening one. -/
theorem takeText_closingUnit {pending : Nat} (h : UnitDigits digits unit) :
    takeText joined (.pair pending) found ('\\' :: 'u' :: (digits ++ rest)) = (do
      let (state, complete) ← endUnit joined (some pending) unit
      takeText joined state (complete ++ found) rest) := by
  have hbegin := beginUnit_append h (some pending) rest
  rw [← takeText_unit h]
  simp [hbegin, bind, Except.bind]

/-! ## Whole texts -/

theorem takeText_of_spells (h : Spells body chars) (found rest : List Char) :
    takeText true .plain found (body ++ '"' :: rest) =
      .ok (String.ofList (found.reverse ++ chars), rest) := by
  induction h generalizing found with
  | nil => simp
  | plain hmark hescape hplain _ ih =>
    rw [List.cons_append, takeText_plain hmark hescape hplain, ih]
    simp
  | letter hletter _ ih =>
    rw [List.cons_append, List.cons_append, takeText_letter hletter, ih]
    simp
  | unit hunit hopens hcloses _ ih =>
    rw [List.cons_append, List.cons_append, List.append_assoc, takeText_escapedUnit hunit]
    simp [endUnit, hopens, hcloses, bind, Except.bind, ih]
  | pair hopening hopens hclosing hcloses _ ih =>
    simp only [List.cons_append, List.append_assoc]
    rw [takeText_escapedUnit hopening]
    simp only [endUnit, hopens, bind, Except.bind, Bool.not_true, Bool.false_eq_true, if_false,
      if_true]
    rw [List.nil_append, takeText_closingUnit hclosing]
    simp [endUnit, hcloses, bind, Except.bind, ih]

/-- A text is read from any of its spellings. -/
theorem textBody_of_spells {s : String} (h : Spells body s.toList) (rest : List Char) :
    textBody (body ++ '"' :: rest) = .ok (s, rest) := by
  rw [textBody, takeText_of_spells h, List.reverse_nil, List.nil_append, String.ofList_toList]

/-- A text that keeps to the grammar is passed over. -/
theorem takeText_of_textBody (h : TextBody body) (found rest : List Char) :
    ∃ s, takeText false .plain found (body ++ '"' :: rest) = .ok (s, rest) := by
  induction h generalizing found with
  | nil => exact ⟨String.ofList found.reverse, by simp⟩
  | plain hmark hescape hplain _ ih =>
    rw [List.cons_append, takeText_plain hmark hescape hplain]
    exact ih _
  | letter hletter _ ih =>
    rw [List.cons_append, List.cons_append, takeText_letter hletter]
    exact ih _
  | unit hunit _ ih =>
    rw [List.cons_append, List.cons_append, List.append_assoc, takeText_escapedUnit hunit]
    exact ih _

/-! ## Written texts -/

/-- A control is spelled by its code point. -/
theorem unitDigits_control {n : Nat} (h : n < firstPlain) :
    UnitDigits ['0', '0', Nat.digitChar (n / 16), Nat.digitChar (n % 16)] n := by
  have high : ∀ n < 32, Text.hexDigit? (Nat.digitChar (n / 16)) = some (n / 16) := by decide
  have low : ∀ n < 32, Text.hexDigit? (Nat.digitChar (n % 16)) = some (n % 16) := by decide
  have zero : Text.hexDigit? '0' = some 0 := by decide
  have hunit := UnitDigits.mk zero zero (high n h) (low n h)
  rwa [show 16 * (16 * (16 * 0 + 0) + n / 16) + n % 16 = n by omega] at hunit

theorem spells_escapeChar (c : Char) (h : Spells body chars) :
    Spells (escapeChar c ++ body) (c :: chars) := by
  unfold escapeChar
  split
  · next letter hletter => exact .letter (unescapeLetter_escapeLetter hletter).2 h
  · next hletter =>
    obtain ⟨hmark, hescape⟩ := plain_of_escapeLetter_eq_none hletter
    split
    · next hcontrol =>
      have hunit := unitDigits_control hcontrol
      have hbelow : c.toNat < 0xd800 := Nat.lt_trans hcontrol (by decide)
      have hopens : opensPair c.toNat = false := by simp [opensPair]; omega
      have hcloses : closesPair c.toNat = false := by simp [closesPair]; omega
      have hspells := Spells.unit hunit hopens hcloses h
      rwa [Char.ofNat_toNat] at hspells
    · next hplain => exact .plain hmark hescape (Nat.not_lt.1 hplain) h

/-- What is written of a text spells it. -/
theorem spells_escapeText (text : List Char) : Spells (escapeText text) text := by
  induction text with
  | nil => exact .nil
  | cons c text ih =>
    rw [escapeText, List.flatMap_cons, ← escapeText]
    exact spells_escapeChar c ih

end Multihead.Json
