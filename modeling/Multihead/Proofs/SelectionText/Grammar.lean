import Multihead.Proofs.Text.DigitRun
import Multihead.SelectionText

/-!
# What a selection text means

Apart from the word for every monitor, a text is a selection exactly if it consists of digits,
commas and spaces and none of its runs of digits is too large a number (`WellFormed`); it then says
the positions that its numbers count from one (`parse_eq_positions_iff`). The scan is compared with
the runs of the whole text: the digits that it holds back and the characters still to be read are
one text, whose runs it has yet to close (`scan_eq_ok_iff`).
-/

namespace Multihead.SelectionText

open Text

/-- Whether a text follows the grammar of written positions. -/
structure WellFormed (text : List Char) : Prop where
  legal : ∀ c ∈ text, c.isDigit = true ∨ c = ',' ∨ c = ' '
  bounded : ∀ n, HasNumber text n → n ≤ maxIndex

/-- Whether a number of the text stands for a position. -/
def Writes (text : List Char) (i : Int) : Prop := ∃ n : Nat, HasNumber text n ∧ i = n - 1

variable {offset : Nat} {run rest ds : List Char} {c : Char} {found set : SortedSet Int} {i : Int}

theorem isSeparator_iff : isSeparator c = true ↔ c = ',' ∨ c = ' ' := by
  simp [isSeparator]

theorem isDigit_of_mem_reverse (hrun : ∀ d ∈ run, d.isDigit = true) :
    ∀ d ∈ run.reverse, d.isDigit = true :=
  fun d hd => hrun d (List.mem_reverse.1 hd)

theorem writes_append_cons (hds : ∀ d ∈ ds, d.isDigit = true) (hc : c.isDigit = false) :
    Writes (ds ++ c :: rest) i ↔ Writes ds i ∨ Writes rest i := by
  simp only [Writes, hasNumber_append_cons hds hc, or_and_right, exists_or]

/-! ## Closing a run -/

/-- The positions found, with that of a run of digits given in reverse. -/
def withRun (run : List Char) (found : SortedSet Int) : SortedSet Int :=
  if run.isEmpty then found else found.insert (Nat.ofDigitChars 10 run.reverse 0 - 1)

theorem mem_withRun (hrun : ∀ d ∈ run, d.isDigit = true) :
    i ∈ withRun run found ↔ i ∈ found ∨ Writes run.reverse i := by
  simp only [Writes, hasNumber_of_digits (isDigit_of_mem_reverse hrun), withRun]
  cases run with
  | nil => simp
  | cons d run =>
    simp only [List.isEmpty_cons, Bool.false_eq_true, if_false, SortedSet.mem_insert]
    constructor
    · rintro (hi | hi)
      · exact .inr ⟨_, ⟨by simp, rfl⟩, hi⟩
      · exact .inl hi
    · rintro (hi | ⟨n, ⟨-, rfl⟩, hi⟩)
      · exact .inr hi
      · exact .inl hi

theorem closeRun_eq_ok_iff (hrun : ∀ d ∈ run, d.isDigit = true) :
    closeRun offset run found = .ok set ↔
      (∀ n, HasNumber run.reverse n → n ≤ maxIndex) ∧ set = withRun run found := by
  simp only [hasNumber_of_digits (isDigit_of_mem_reverse hrun), closeRun, withRun]
  cases run with
  | nil => simp [eq_comm]
  | cons d run =>
    simp only [List.isEmpty_cons, Bool.false_eq_true, if_false]
    split
    · next hle =>
      simp only [Except.ok.injEq, eq_comm (a := set)]
      exact (and_iff_right fun n hn => hn.2 ▸ hle).symm
    · next hgt =>
      simp only [reduceCtorEq, false_iff]
      exact fun h => hgt (h.1 _ ⟨by simp, rfl⟩)

/-! ## The scan -/

/-- The scan succeeds exactly if what remains is legal and no run that is still open or to come is
too large, and it then adds the positions of those runs. -/
theorem scan_eq_ok_iff (hrun : ∀ d ∈ run, d.isDigit = true) :
    scan offset run found rest = .ok set ↔
      (∀ c ∈ rest, c.isDigit = true ∨ c = ',' ∨ c = ' ') ∧
        (∀ n, HasNumber (run.reverse ++ rest) n → n ≤ maxIndex) ∧
        ∀ i, i ∈ set ↔ i ∈ found ∨ Writes (run.reverse ++ rest) i := by
  induction rest generalizing offset run found with
  | nil =>
    rw [scan, closeRun_eq_ok_iff hrun, List.append_nil]
    simp only [List.not_mem_nil, false_implies, implies_true, true_and, ← mem_withRun hrun]
    exact and_congr_right fun _ => ⟨fun h i => by rw [h], SortedSet.ext⟩
  | cons c rest ih =>
    rw [scan, List.forall_mem_cons]
    split
    · next hdigit =>
      -- the digit moves from what remains to the open run: the text is the same
      have hrun' : ∀ d ∈ c :: run, d.isDigit = true := List.forall_mem_cons.2 ⟨hdigit, hrun⟩
      rw [ih hrun', List.reverse_cons, List.append_assoc, List.singleton_append]
      simp only [hdigit, true_or, true_and]
    · next hdigit =>
      have hc : c.isDigit = false := by simpa using hdigit
      have hrev := isDigit_of_mem_reverse hrun
      split
      · next hsep =>
        -- the open run ends here: its number and those of the rest are the numbers of the text
        have hnil : ∀ d ∈ ([] : List Char), d.isDigit = true := by simp
        simp only [isSeparator_iff.1 hsep, or_true, true_and, hasNumber_append_cons hrev hc,
          writes_append_cons hrev hc, or_imp, forall_and]
        cases hclose : closeRun offset run found with
        | ok closed =>
          obtain ⟨hle, rfl⟩ := (closeRun_eq_ok_iff hrun).1 hclose
          change scan (offset + 1) [] (withRun run found) rest = .ok set ↔ _
          rw [ih hnil]
          simp only [List.reverse_nil, List.nil_append, mem_withRun hrun, or_assoc, and_assoc]
          exact and_congr_right fun _ => (and_iff_right hle).symm
        | error e =>
          have hgt : ¬ ∀ n, HasNumber run.reverse n → n ≤ maxIndex := by
            intro hle
            have hok : closeRun offset run found = .ok (withRun run found) :=
              (closeRun_eq_ok_iff hrun).2 ⟨hle, rfl⟩
            rw [hclose] at hok
            cases hok
          simp only [hgt, false_and, and_false, iff_false]
          exact fun h => nomatch h
      · next hsep =>
        simp only [reduceCtorEq, false_iff]
        rintro ⟨⟨hd | hs, -⟩, -⟩
        · exact hdigit hd
        · exact hsep (isSeparator_iff.2 hs)

/-- The positions that a text writes form a set, whether or not the text is a selection. -/
theorem exists_set_writes (run rest : List Char) (hrun : ∀ d ∈ run, d.isDigit = true) :
    ∃ set : SortedSet Int, ∀ i, i ∈ set ↔ Writes (run.reverse ++ rest) i := by
  induction rest generalizing run with
  | nil => exact ⟨withRun run ∅, fun i => by simp [mem_withRun hrun]⟩
  | cons c rest ih =>
    by_cases hc : c.isDigit = true
    · obtain ⟨set, hset⟩ := ih (c :: run) (List.forall_mem_cons.2 ⟨hc, hrun⟩)
      exact ⟨set, by simpa using hset⟩
    · obtain ⟨set, hset⟩ := ih [] (by simp)
      have hrev := isDigit_of_mem_reverse hrun
      refine ⟨withRun run set, fun i => ?_⟩
      rw [mem_withRun hrun, writes_append_cons hrev (by simpa using hc), hset, or_comm]
      rfl

/-! ## Reading -/

theorem parse_eq_positions_iff {text : String} :
    parse text = .ok (.positions set) ↔
      WellFormed text.toList ∧ ∀ i, i ∈ set ↔ Writes text.toList i := by
  have hscan : scan 0 [] ∅ text.toList = .ok set ↔ _ := scan_eq_ok_iff (by simp)
  simp only [List.reverse_nil, List.nil_append, SortedSet.not_mem_empty, false_or] at hscan
  unfold parse
  split
  · next hall =>
    subst hall
    simp only [Except.ok.injEq, reduceCtorEq, false_iff]
    rintro ⟨h, -⟩
    exact absurd (h.legal 'a' (by decide)) (by decide)
  · have hmap : (scan 0 [] ∅ text.toList).map positions = .ok (positions set) ↔
        scan 0 [] ∅ text.toList = .ok set := by
      cases scan 0 [] ∅ text.toList <;> simp [Except.map]
    rw [hmap, hscan]
    exact ⟨fun h => ⟨⟨h.1, h.2.1⟩, h.2.2⟩, fun h => ⟨h.1.legal, h.1.bounded, h.2⟩⟩

theorem parse_eq_all_iff {text : String} : parse text = .ok .all ↔ text = allWord := by
  unfold parse
  split
  · next h => simp [h]
  · next h =>
    simp only [h, iff_false]
    cases scan 0 [] ∅ text.toList <;> simp [Except.map]

theorem exists_parse_eq_positions_iff {text : String} :
    (∃ set, parse text = .ok (.positions set)) ↔ WellFormed text.toList := by
  constructor
  · rintro ⟨set, h⟩
    exact (parse_eq_positions_iff.1 h).1
  · intro h
    obtain ⟨set, hset⟩ := exists_set_writes [] text.toList (by simp)
    exact ⟨set, parse_eq_positions_iff.2 ⟨h, hset⟩⟩

theorem exists_parse_eq_error_iff {text : String} :
    (∃ e, parse text = .error e) ↔ text ≠ allWord ∧ ¬ WellFormed text.toList := by
  rw [Ne, ← parse_eq_all_iff, ← exists_parse_eq_positions_iff]
  cases parse text with
  | error e => simp
  | ok said => cases said <;> simp

/-- A position counted from zero is written as the number above it. -/
theorem writes_natCast {text : List Char} {p : Nat} :
    Writes text (p : Int) ↔ HasNumber text (p + 1) := by
  constructor
  · rintro ⟨n, hn, hp⟩
    obtain rfl : n = p + 1 := by omega
    exact hn
  · intro h
    exact ⟨p + 1, h, by omega⟩

/-- Reading a selection text. The word for every monitor is read as such and nothing else is. Any
other text is read exactly if it has only digits, commas and spaces and no number above 2147483647;
it then says the positions one below its numbers, and those lie between -1 and 2147483646. -/
theorem parse_reads_grammar (text : String) :
    (parse text = .ok .all ↔ text = "all") ∧
      (text ≠ "all" → ((∃ said, parse text = .ok said) ↔
        (∀ c ∈ text.toList, c.isDigit = true ∨ c = ',' ∨ c = ' ') ∧
          ∀ n, HasNumber text.toList n → n ≤ 2147483647)) ∧
      ∀ set, parse text = .ok (.positions set) →
        (∀ i, i ∈ set ↔ ∃ n : Nat, HasNumber text.toList n ∧ i = n - 1) ∧
          ∀ i ∈ set, -1 ≤ i ∧ i ≤ 2147483646 := by
  refine ⟨parse_eq_all_iff, fun hall => ?_, fun set hset => ?_⟩
  · constructor
    · rintro ⟨said, hsaid⟩
      cases said with
      | all => exact absurd (parse_eq_all_iff.1 hsaid) hall
      | positions set =>
        obtain ⟨hwf, -⟩ := parse_eq_positions_iff.1 hsaid
        exact ⟨hwf.legal, hwf.bounded⟩
    · rintro ⟨hlegal, hbounded⟩
      obtain ⟨set, hset⟩ := exists_parse_eq_positions_iff.2 ⟨hlegal, hbounded⟩
      exact ⟨.positions set, hset⟩
  · obtain ⟨hwf, hmem⟩ := parse_eq_positions_iff.1 hset
    refine ⟨hmem, fun i hi => ?_⟩
    obtain ⟨n, hn, rfl⟩ := (hmem i).1 hi
    have : n ≤ 2147483647 := hwf.bounded n hn
    omega

end Multihead.SelectionText
