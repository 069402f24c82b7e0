import Mathlib.Data.List.Basic
import Multihead.Proofs.SelectionText.Grammar
import Multihead.Proofs.Text.Decimal

/-!
# Reading back what was written

The written form of a set is a list of decimals separated by commas. Its runs of digits are these
decimals, so that it is read as the positions that it was made of; only those too large to be
written are missing (`parse_ofPositions_iff`).
-/

namespace Multihead.SelectionText

open Text

variable {n m : Nat} {numbers : List Nat}

theorem isDigit_of_mem_toString : ∀ c ∈ (toString n).toList, c.isDigit = true :=
  (isDecimal_toString n).digits

theorem hasNumber_toString : HasNumber (toString n).toList m ↔ m = n := by
  have hdecimal := isDecimal_toString n
  rw [hasNumber_of_digits hdecimal.digits, hdecimal.value, eq_comm]
  exact and_iff_right hdecimal.nonempty

/-! ## Numbers between commas -/

theorem toList_commas_cons (n k : Nat) (rest : List Nat) :
    (String.intercalate "," ((n :: k :: rest).map toString)).toList =
      (toString n).toList ++
        ',' :: (String.intercalate "," ((k :: rest).map toString)).toList := by
  rw [List.map_cons, List.map_cons, String.intercalate_cons_cons, String.toList_append,
    String.toList_append, List.append_assoc]
  rfl

theorem hasNumber_commas :
    HasNumber (String.intercalate "," (numbers.map toString)).toList m ↔ m ∈ numbers := by
  induction numbers with
  | nil =>
    rw [List.map_nil, String.intercalate_nil, hasNumber_of_digits (by simp)]
    simp
  | cons n rest ih =>
    cases rest with
    | nil =>
      rw [List.map_singleton, String.intercalate_singleton, hasNumber_toString,
        List.mem_singleton]
    | cons k rest =>
      rw [toList_commas_cons, hasNumber_append_cons isDigit_of_mem_toString (by decide),
        hasNumber_toString, ih]
      exact List.mem_cons.symm

theorem isDigit_or_eq_comma_of_mem_commas :
    ∀ c ∈ (String.intercalate "," (numbers.map toString)).toList, c.isDigit = true ∨ c = ',' := by
  induction numbers with
  | nil => simp
  | cons n rest ih =>
    cases rest with
    | nil =>
      rw [List.map_singleton, String.intercalate_singleton]
      exact fun c hc => .inl (isDigit_of_mem_toString c hc)
    | cons k rest =>
      rw [toList_commas_cons]
      intro c hc
      rcases List.mem_append.1 hc with hc | hc
      · exact .inl (isDigit_of_mem_toString c hc)
      · rcases List.mem_cons.1 hc with rfl | hc
        · exact .inr rfl
        · exact ih c hc

theorem wellFormed_commas (h : ∀ n ∈ numbers, n ≤ maxIndex) :
    WellFormed (String.intercalate "," (numbers.map toString)).toList where
  legal c hc := (isDigit_or_eq_comma_of_mem_commas c hc).imp_right .inl
  bounded n hn := h n (hasNumber_commas.1 hn)

/-! ## Sets of positions -/

variable {set : SortedSet Nat}

theorem value_ofPositions (set : SortedSet Nat) :
    (ofPositions set).value =
      String.intercalate "," (((set.toList.filter (· < maxIndex)).map (· + 1)).map toString) := by
  rw [ofPositions, List.map_map]
  rfl

theorem hasNumber_ofPositions :
    HasNumber (ofPositions set).value.toList m ↔ ∃ p ∈ set, p < maxIndex ∧ m = p + 1 := by
  rw [value_ofPositions, hasNumber_commas]
  simp only [List.mem_map, List.mem_filter, SortedSet.mem_toList, decide_eq_true_eq, and_assoc,
    eq_comm (a := m)]

theorem wellFormed_ofPositions (set : SortedSet Nat) :
    WellFormed (ofPositions set).value.toList := by
  rw [value_ofPositions]
  refine wellFormed_commas ?_
  intro n hn
  obtain ⟨p, hp, rfl⟩ := List.mem_map.1 hn
  exact of_decide_eq_true (List.mem_filter.1 hp).2

/-- No character of a written set needs an escape. -/
theorem quote_ofPositions (set : SortedSet Nat) :
    quote (ofPositions set).value = "\"" ++ (ofPositions set).value ++ "\"" := by
  have hdigits : ∀ n < 58, 48 ≤ n → escapeWithin '"' (Char.ofNat n) = [Char.ofNat n] := by
    decide +kernel
  have hplain : ∀ c ∈ (ofPositions set).value.toList, escapeWithin '"' c = [c] := by
    intro c hc
    rw [value_ofPositions] at hc
    rcases isDigit_or_eq_comma_of_mem_commas c hc with hdigit | rfl
    · obtain ⟨hlow, hhigh⟩ := Char.isDigit_iff_toNat.1 hdigit
      have hescape := hdigits c.toNat (Nat.lt_succ_of_le hhigh) hlow
      rwa [Char.ofNat_toNat] at hescape
    · decide +kernel
  have hflat : (ofPositions set).value.toList.flatMap (escapeWithin '"') =
      (ofPositions set).value.toList := by
    rw [List.flatMap_congr hplain]
    exact List.flatMap_singleton' _
  rw [quote, hflat, String.ofList_append, String.ofList_append, String.ofList_toList]

/-- A written set is read as its positions, without those that are too large. -/
theorem parse_ofPositions_iff {read : SortedSet Int} :
    parse (ofPositions set).value = .ok (.positions read) ↔
      ∀ i, i ∈ read ↔ ∃ p ∈ set, p < maxIndex ∧ i = p := by
  rw [parse_eq_positions_iff, and_iff_right (wellFormed_ofPositions set)]
  refine forall_congr' fun i => iff_congr Iff.rfl ?_
  constructor
  · rintro ⟨n, hn, rfl⟩
    obtain ⟨p, hp, hlt, rfl⟩ := hasNumber_ofPositions.1 hn
    exact ⟨p, hp, hlt, by omega⟩
  · rintro ⟨p, hp, hlt, rfl⟩
    exact writes_natCast.2 (hasNumber_ofPositions.2 ⟨p, hp, hlt, rfl⟩)

end Multihead.SelectionText
