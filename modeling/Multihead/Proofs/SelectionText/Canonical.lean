import Multihead.Proofs.SelectionText.RoundTrip

/-!
# The canonical form of a selection text

A selection text that does not mean every monitor has one canonical form: the decimals of its
numbers, strictly ascending, without leading zeros and separated by single commas. It is what a
selection is written as (`commaSeparated_iff`), and it is read as the positions that it was written
for (`parse_render_ofNumbers`). Everything that can be read comes from such numbers
(`exists_ofNumbers_of_parse`), the number `0` of no monitor among them, so that what is written
after reading is read as the same again (`parse_render_of_parse`).

A set of positions is written by a way of its own, which drops what is too large to be read back and
agrees with the other on the rest (`value_ofPositions_eq_render`).
-/

namespace Multihead.SelectionText

open Text

/-! ## Comma-separated decimals -/

/-- Decimals without leading zeros, separated by single commas. -/
inductive CommaSeparated : List Char → List Nat → Prop
  | nil : CommaSeparated [] []
  | single {text : List Char} {n : Nat} (h : IsDecimal text n) : CommaSeparated text [n]
  | cons {text rest : List Char} {n m : Nat} {numbers : List Nat} (h : IsDecimal text n)
      (hrest : CommaSeparated rest (m :: numbers)) :
      CommaSeparated (text ++ ',' :: rest) (n :: m :: numbers)

theorem commaSeparated_commas (numbers : List Nat) :
    CommaSeparated (String.intercalate "," (numbers.map toString)).toList numbers := by
  induction numbers with
  | nil =>
    rw [List.map_nil, String.intercalate_nil]
    exact .nil
  | cons n rest ih =>
    have hdecimal := isDecimal_toString n
    cases rest with
    | nil =>
      rw [List.map_singleton, String.intercalate_singleton]
      exact .single hdecimal
    | cons m rest =>
      rw [toList_commas_cons]
      exact .cons hdecimal ih

/-- Numbers have one form as comma-separated decimals. -/
theorem commaSeparated_iff {text : List Char} {numbers : List Nat} :
    CommaSeparated text numbers ↔
      text = (String.intercalate "," (numbers.map toString)).toList := by
  constructor
  · intro h
    induction h with
    | nil => rw [List.map_nil, String.intercalate_nil]; rfl
    | single h =>
      rw [List.map_singleton, String.intercalate_singleton]
      exact isDecimal_iff.1 h
    | cons h _ ih => rw [toList_commas_cons, isDecimal_iff.1 h, ih]
  · intro h
    rw [h]
    exact commaSeparated_commas numbers

/-! ## Positions and their numbers -/

/-- The positions, counted from zero, of numbers that count from one. -/
def ofNumbers (numbers : SortedSet Nat) : SortedSet Int where
  toList := numbers.toList.map fun n : Nat => (n : Int) - 1
  ascending := by
    refine List.pairwise_map.2 (numbers.ascending.imp ?_)
    intro n m hnm
    omega

variable {numbers : SortedSet Nat} {set : SortedSet Int} {i : Int}

theorem mem_ofNumbers : i ∈ ofNumbers numbers ↔ ∃ n ∈ numbers, i = (n : Int) - 1 := by
  rw [← SortedSet.mem_toList, ofNumbers, List.mem_map]
  simp only [SortedSet.mem_toList, eq_comm (a := i)]

theorem render_ofNumbers (numbers : SortedSet Nat) :
    (positions (ofNumbers numbers)).render =
      String.intercalate "," (numbers.toList.map toString) := by
  rw [render, ofNumbers, List.map_map]
  refine congrArg _ (List.map_congr_left ?_)
  intro n _
  have hnumber : (n : Int) - 1 + 1 = Int.ofNat n := Int.sub_add_cancel _ _
  simp only [Function.comp_apply, hnumber]
  rfl

theorem parse_render_ofNumbers (h : ∀ n ∈ numbers, n ≤ maxIndex) :
    parse (positions (ofNumbers numbers)).render = .ok (.positions (ofNumbers numbers)) := by
  rw [render_ofNumbers, parse_eq_positions_iff]
  refine ⟨wellFormed_commas h, ?_⟩
  intro i
  rw [mem_ofNumbers, Writes]
  simp only [hasNumber_commas, SortedSet.mem_toList]

/-- The positions that a text is read as are those of some numbers, which may be written. -/
theorem exists_ofNumbers_of_parse {text : String} (h : parse text = .ok (.positions set)) :
    ∃ numbers, set = ofNumbers numbers ∧ ∀ n ∈ numbers, n ≤ maxIndex := by
  obtain ⟨hwf, hmem⟩ := parse_eq_positions_iff.1 h
  refine ⟨.ofList (set.toList.map fun i => (i + 1).toNat), SortedSet.ext fun i => ?_, ?_⟩
  · simp only [mem_ofNumbers, SortedSet.mem_ofList, List.mem_map, SortedSet.mem_toList]
    constructor
    · intro hi
      obtain ⟨n, -, hn⟩ := (hmem i).1 hi
      exact ⟨_, ⟨i, hi, rfl⟩, by omega⟩
    · rintro ⟨_, ⟨j, hj, rfl⟩, hi⟩
      obtain ⟨n, -, hn⟩ := (hmem j).1 hj
      obtain rfl : i = j := by omega
      exact hj
  · intro n hn
    simp only [SortedSet.mem_ofList, List.mem_map, SortedSet.mem_toList] at hn
    obtain ⟨i, hi, rfl⟩ := hn
    obtain ⟨n, hnumber, hn⟩ := (hmem i).1 hi
    have hle := hwf.bounded n hnumber
    omega

/-- What was read and is written is read as the same. -/
theorem parse_render_of_parse {text : String} {said : SelectionText} (h : parse text = .ok said) :
    parse said.render = .ok said := by
  cases said with
  | all => exact parse_eq_all_iff.2 rfl
  | positions set =>
    obtain ⟨numbers, rfl, hbounded⟩ := exists_ofNumbers_of_parse h
    exact parse_render_ofNumbers hbounded

/-! ## Sets of positions -/

/-- The numbers by which positions are written. -/
def numbersOf (set : SortedSet Nat) : SortedSet Nat where
  toList := (set.toList.filter (· < maxIndex)).map (· + 1)
  ascending := by
    refine List.pairwise_map.2 ((set.ascending.filter _).imp ?_)
    intro p q hpq
    omega

theorem mem_numbersOf {set : SortedSet Nat} {n : Nat} :
    n ∈ numbersOf set ↔ ∃ p ∈ set, p < maxIndex ∧ n = p + 1 := by
  rw [← SortedSet.mem_toList, numbersOf]
  simp only [List.mem_map, List.mem_filter, SortedSet.mem_toList, decide_eq_true_eq, and_assoc,
    eq_comm (a := n)]

/-- A set of positions is written as what it is read as would be. -/
theorem value_ofPositions_eq_render (set : SortedSet Nat) :
    (ofPositions set).value = (positions (ofNumbers (numbersOf set))).render := by
  rw [value_ofPositions, render_ofNumbers]
  rfl

theorem mem_ofNumbers_numbersOf {set : SortedSet Nat} :
    i ∈ ofNumbers (numbersOf set) ↔ ∃ p ∈ set, p < maxIndex ∧ i = p := by
  rw [mem_ofNumbers]
  constructor
  · rintro ⟨n, hn, hi⟩
    obtain ⟨p, hp, hlt, rfl⟩ := mem_numbersOf.1 hn
    exact ⟨p, hp, hlt, by omega⟩
  · rintro ⟨p, hp, hlt, hi⟩
    exact ⟨p + 1, mem_numbersOf.2 ⟨p, hp, hlt, rfl⟩, by omega⟩

/-! ## Canonical texts -/

/-- The canonical form of a selection text. -/
def canonicalize (text : String) : Except Error String := (parse text).map render

/-- Whether a text is the word for every monitor, or strictly ascending decimals without leading
zeros, none too large and separated by single commas. -/
def IsCanonical (text : String) : Prop :=
  text = allWord ∨ ∃ numbers : SortedSet Nat, (∀ n ∈ numbers, n ≤ maxIndex) ∧
    CommaSeparated text.toList numbers.toList

theorem isCanonical_render_of_parse {text : String} {said : SelectionText}
    (h : parse text = .ok said) : IsCanonical said.render := by
  cases said with
  | all => exact .inl rfl
  | positions set =>
    obtain ⟨numbers, rfl, hbounded⟩ := exists_ofNumbers_of_parse h
    refine .inr ⟨numbers, hbounded, ?_⟩
    rw [render_ofNumbers]
    exact commaSeparated_commas _

theorem canonicalize_of_isCanonical {text : String} (h : IsCanonical text) :
    canonicalize text = .ok text := by
  rcases h with rfl | ⟨numbers, hbounded, hseparated⟩
  · rfl
  · have htext : text = (positions (ofNumbers numbers)).render := by
      rw [render_ofNumbers]
      exact String.toList_inj.1 (commaSeparated_iff.1 hseparated)
    rw [canonicalize, htext, parse_render_ofNumbers hbounded]
    rfl

theorem canonicalize_eq_ok_iff {text form : String} :
    canonicalize text = .ok form ↔ ∃ said, parse text = .ok said ∧ said.render = form := by
  rw [canonicalize]
  cases parse text with
  | error e => simp [Except.map]
  | ok said => simp [Except.map]

/-- The canonical form of a text is read as the text itself, or refused for the same reason. -/
theorem canonicalize_bind_parse (text : String) : (canonicalize text).bind parse = parse text := by
  rw [canonicalize]
  cases hparse : parse text with
  | error e => rfl
  | ok said => exact parse_render_of_parse hparse

theorem canonicalize_bind_canonicalize (text : String) :
    (canonicalize text).bind canonicalize = canonicalize text := by
  have hread : ∀ form : Except Error String,
      form.bind canonicalize = (form.bind parse).map render := by
    intro form
    cases form <;> rfl
  rw [hread, canonicalize_bind_parse]
  rfl

theorem canonicalize_eq_iff {a b : String} : canonicalize a = canonicalize b ↔ parse a = parse b := by
  constructor
  · intro h
    rw [← canonicalize_bind_parse a, ← canonicalize_bind_parse b, h]
  · intro h
    rw [canonicalize, canonicalize, h]

/-- Writing and reading selections. A set of positions is written as the numbers above them,
strictly ascending decimals without leading zeros between single commas, and read as the same
positions, but for those that are too large to be written; what it is read as would be written the
same way. Whatever a text is read as is written so that it is read as the same again. Bringing a
text into this form once is as good as twice, two texts have it in common exactly if they are read
as the same, and it leaves exactly the canonical texts as they are. -/
theorem one_canonical_form :
    (∀ set : SortedSet Nat, ∃ (read : SortedSet Int) (numbers : SortedSet Nat),
      parse (ofPositions set).value = .ok (.positions read) ∧
        (∀ i, i ∈ read ↔ ∃ p ∈ set, p < 2147483647 ∧ i = p) ∧
        CommaSeparated (ofPositions set).value.toList numbers.toList ∧
        (∀ n, n ∈ numbers ↔ ∃ p ∈ set, p < 2147483647 ∧ n = p + 1) ∧
        (ofPositions set).value = (positions read).render) ∧
      (∀ text said, parse text = .ok said → parse said.render = .ok said) ∧
      (∀ text, (canonicalize text).bind canonicalize = canonicalize text) ∧
      (∀ a b, canonicalize a = canonicalize b ↔ parse a = parse b) ∧
      ∀ text, canonicalize text = .ok text ↔ IsCanonical text := by
  refine ⟨?_, fun text said => parse_render_of_parse, canonicalize_bind_canonicalize,
    fun a b => canonicalize_eq_iff, ?_⟩
  · intro set
    refine ⟨ofNumbers (numbersOf set), numbersOf set, ?_, ?_, ?_, ?_, ?_⟩
    · exact parse_ofPositions_iff.2 fun i => mem_ofNumbers_numbersOf
    · exact fun i => mem_ofNumbers_numbersOf
    · rw [value_ofPositions]
      exact commaSeparated_commas _
    · exact fun n => mem_numbersOf
    · exact value_ofPositions_eq_render set
  · intro text
    constructor
    · intro h
      obtain ⟨said, hparse, hrender⟩ := canonicalize_eq_ok_iff.1 h
      rw [← hrender]
      exact isCanonical_render_of_parse hparse
    · exact canonicalize_of_isCanonical

/-- A `0` names no monitor and is kept; blanks, zeros in front, repetitions and order are not. -/
example : canonicalize " 007,0 ,,3 ,003" = .ok "0,3,7" := by cbv

end Multihead.SelectionText
