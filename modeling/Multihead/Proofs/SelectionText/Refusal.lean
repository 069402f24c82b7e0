import Multihead.Proofs.SelectionText.Grammar

/-!
# Why a text is refused

A text that is no selection has a character that may not stand in one (`FirstStray`) or a run of
digits that is too large a number and ends at a separator or at the end (`TooLarge`). A character is
refused where it is met, a run only where it ends. So the first run that is too large is reported if
it ends before the first such character, and the character otherwise (`refused_for_first_fault`).
Everything before the fault is one byte wide, which makes the offset a count of characters on the
way (`Located`) and of bytes in the end.
-/

namespace Multihead.SelectionText

open Text

/-- Whether a character may stand in a written selection. -/
def IsLegal (c : Char) : Prop := c.isDigit = true ∨ c = ',' ∨ c = ' '

/-- `c` is the first character of `text` that may not stand in a selection. -/
structure FirstStray (text before : List Char) (c : Char) (after : List Char) : Prop where
  split : text = before ++ c :: after
  legal : ∀ d ∈ before, IsLegal d
  stray : ¬ IsLegal c

/-- `run` is a run of digits of `text` that is too large, with a separator or nothing behind it. -/
structure TooLarge (text before run after : List Char) : Prop
    extends DigitRun text before run after where
  ends : ∀ c, after.head? = some c → c = ',' ∨ c = ' '
  exceeds : maxIndex < Nat.ofDigitChars 10 run 0

/-- `run` is the first such run of `text`. -/
structure FirstTooLarge (text before run after : List Char) : Prop
    extends TooLarge text before run after where
  first : ∀ before' run' after', TooLarge text before' run' after' →
    before.length ≤ before'.length

/-- The offset that an error reports. -/
def Error.offset : Error → Nat
  | .unexpectedCharacter offset _ => offset
  | .indexTooLarge offset _ => offset

/-- What an error says it found there. -/
def Error.found : Error → String
  | .unexpectedCharacter _ c => String.singleton c
  | .indexTooLarge _ token => token

variable {text ds rest before run after : List Char} {c : Char} {offset start : Nat}
  {found : SortedSet Int} {e : Error}

theorem isLegal_of_isDigit (h : c.isDigit = true) : IsLegal c := .inl h

theorem isDigit_eq_false_of_isSeparator (h : isSeparator c = true) : c.isDigit = false := by
  rcases isSeparator_iff.1 h with rfl | rfl <;> decide

/-! ## Bytes -/

theorem utf8Size_of_isLegal (h : IsLegal c) : c.utf8Size = 1 := by
  rcases h with hdigit | rfl | rfl
  · have hle : c.val ≤ 57 := by
      simp only [Char.isDigit, Bool.and_eq_true, decide_eq_true_eq] at hdigit
      exact hdigit.2
    have hascii : c.val ≤ 127 := UInt32.le_trans hle (by decide)
    exact if_pos hascii
  · decide
  · decide

theorem utf8ByteSize_of_isLegal (h : ∀ d ∈ before, IsLegal d) :
    (String.ofList before).utf8ByteSize = before.length := by
  induction before with
  | nil => rfl
  | cons d before ih =>
    obtain ⟨hd, hbefore⟩ := List.forall_mem_cons.1 h
    rw [String.ofList_cons, String.utf8ByteSize_append, String.utf8ByteSize_singleton,
      utf8Size_of_isLegal hd, ih hbefore, List.length_cons, Nat.add_comm]

/-! ## Runs that are too large -/

/-- The runs behind a character that is no digit are too large in the rest as in the text. -/
theorem tooLarge_append_cons (hds : ∀ d ∈ ds, d.isDigit = true) (hc : c.isDigit = false) :
    TooLarge (ds ++ c :: rest) before run after ↔
      (ds ≠ [] ∧ before = [] ∧ run = ds ∧ after = c :: rest ∧ (c = ',' ∨ c = ' ') ∧
        maxIndex < Nat.ofDigitChars 10 ds 0) ∨
      ∃ b, before = ds ++ c :: b ∧ TooLarge rest b run after := by
  constructor
  · rintro ⟨hrun, hends, hexceeds⟩
    rcases (digitRun_append_cons hds hc).1 hrun with ⟨hne, rfl, rfl, rfl⟩ | ⟨b, rfl, hrun'⟩
    · exact .inl ⟨hne, rfl, rfl, rfl, hends c rfl, hexceeds⟩
    · exact .inr ⟨b, rfl, hrun', hends, hexceeds⟩
  · rintro (⟨hne, rfl, rfl, rfl, hsep, hexceeds⟩ | ⟨b, rfl, hrun, hends, hexceeds⟩)
    · refine ⟨(digitRun_append_cons hds hc).2 (.inl ⟨hne, rfl, rfl, rfl⟩), ?_, hexceeds⟩
      rintro d ⟨⟩
      exact hsep
    · exact ⟨(digitRun_append_cons hds hc).2 (.inr ⟨b, rfl, hrun⟩), hends, hexceeds⟩

/-- Behind a run that an illegal character ends, a run that is too large starts earlier or ends
later. -/
theorem TooLarge.starts_before {b r a : List Char} (h : TooLarge text b r a)
    (hrun : DigitRun text before run (c :: after)) (hc : ¬ IsLegal c)
    (hends : b.length + r.length ≤ before.length + run.length) : b.length < before.length := by
  apply Classical.byContradiction
  intro hle
  obtain ⟨m, rfl⟩ : before <+: b :=
    List.prefix_of_prefix_length_le ⟨_, hrun.split.symm⟩ ⟨_, h.split.symm⟩ (Nat.not_lt.1 hle)
  have hsplit : run ++ c :: after = m ++ (r ++ a) := by
    have htext : before ++ (run ++ c :: after) = before ++ (m ++ (r ++ a)) := by
      rw [← hrun.split, h.split, List.append_assoc]
    exact List.append_cancel_left htext
  -- what is left of the run that starts within `run` is `run` itself
  have hrest : DigitRun (run ++ c :: after) m r a := by
    refine ⟨hsplit, h.nonempty, h.digits, fun d hd => h.opens d ?_, h.closes⟩
    rw [List.getLast?_append, hd]
    rfl
  obtain ⟨more, hmore⟩ : m <+: run := by
    refine List.prefix_of_prefix_length_le ⟨_, hsplit.symm⟩ (List.prefix_append run _) ?_
    rw [List.length_append] at hends
    omega
  obtain ⟨-, -, rfl⟩ := hrest.eq_of_leading hrun.digits hrun.closes hmore.symm
  exact hc (.inr (h.ends c rfl))

/-! ## Scanning up to the fault -/

/-- What a text is refused for, with everything before the fault legal and `start` characters before
the text. -/
inductive Located (start : Nat) (text : List Char) : Error → Prop
  | indexTooLarge {before run after : List Char} (hfirst : FirstTooLarge text before run after)
    (hlegal : ∀ d ∈ before, IsLegal d) :
    Located start text (.indexTooLarge (start + before.length) (String.ofList run))
  | unexpectedCharacter {before : List Char} {c : Char} {after : List Char}
    (hfirst : FirstStray text before c after)
    (hruns : ∀ b r a, TooLarge text b r a → before.length < b.length + r.length) :
    Located start text (.unexpectedCharacter (start + before.length) c)

theorem closeRun_eq_error (h : closeRun offset run found = .error e) :
    run.reverse ≠ [] ∧ maxIndex < Nat.ofDigitChars 10 run.reverse 0 ∧
      e = .indexTooLarge (offset - run.length) (String.ofList run.reverse) := by
  unfold closeRun at h
  split at h
  · cases h
  · next hempty =>
    have hne : run.reverse ≠ [] := by simpa using hempty
    dsimp only at h
    split at h
    · cases h
    · next hle => exact ⟨hne, Nat.lt_of_not_le hle, (Except.error.inj h).symm⟩

/-- Leading digits that are too large and end here are the first fault. -/
theorem located_leading (hds : ∀ d ∈ ds, d.isDigit = true) (hne : ds ≠ [])
    (hexceeds : maxIndex < Nat.ofDigitChars 10 ds 0)
    (hends : ∀ c, rest.head? = some c → isSeparator c = true) :
    Located start (ds ++ rest) (.indexTooLarge start (String.ofList ds)) := by
  have hrun : DigitRun (ds ++ rest) [] ds rest :=
    ⟨rfl, hne, hds, by simp, fun c hc => isDigit_eq_false_of_isSeparator (hends c hc)⟩
  have hlarge : TooLarge (ds ++ rest) [] ds rest :=
    ⟨hrun, fun c hc => isSeparator_iff.1 (hends c hc), hexceeds⟩
  exact .indexTooLarge ⟨hlarge, fun _ _ _ _ => Nat.zero_le _⟩ (by simp)

/-- An illegal character behind leading digits is the first fault, however large they are. -/
theorem located_stray (hds : ∀ d ∈ ds, d.isDigit = true) (hc : ¬ IsLegal c) :
    Located start (ds ++ c :: rest) (.unexpectedCharacter (start + ds.length) c) := by
  have hdigit : c.isDigit = false := Bool.eq_false_iff.2 fun h => hc (isLegal_of_isDigit h)
  refine .unexpectedCharacter ⟨rfl, fun d hd => isLegal_of_isDigit (hds d hd), hc⟩ ?_
  intro b r a h
  rcases (tooLarge_append_cons hds hdigit).1 h with ⟨-, -, -, -, hsep, -⟩ | ⟨b, rfl, -⟩
  · exact absurd (.inr hsep) hc
  · simp only [List.length_append, List.length_cons]
    omega

/-- The first fault of the rest is the first one of the text, if the digits before it are not too
large. -/
theorem Located.skip (h : Located (start + ds.length + 1) rest e)
    (hds : ∀ d ∈ ds, d.isDigit = true) (hsep : isSeparator c = true)
    (hsmall : ds ≠ [] → Nat.ofDigitChars 10 ds 0 ≤ maxIndex) :
    Located start (ds ++ c :: rest) e := by
  have hc := isDigit_eq_false_of_isSeparator hsep
  have hlegal {before : List Char} (hbefore : ∀ d ∈ before, IsLegal d) :
      ∀ d ∈ ds ++ c :: before, IsLegal d := by
    intro d hd
    rcases List.mem_append.1 hd with hd | hd
    · exact isLegal_of_isDigit (hds d hd)
    · rcases List.mem_cons.1 hd with rfl | hd
      · exact .inr (isSeparator_iff.1 hsep)
      · exact hbefore d hd
  have hlength (before : List Char) :
      (ds ++ c :: before).length = ds.length + 1 + before.length := by
    simp only [List.length_append, List.length_cons]
    omega
  have hoffset (before : List Char) :
      start + ds.length + 1 + before.length = start + (ds ++ c :: before).length := by
    rw [hlength]
    omega
  have hlater {b r a : List Char} (h : TooLarge (ds ++ c :: rest) b r a) :
      ∃ b', b = ds ++ c :: b' ∧ TooLarge rest b' r a := by
    rcases (tooLarge_append_cons hds hc).1 h with ⟨hne, -, -, -, -, hexceeds⟩ | hlater
    · exact absurd (hsmall hne) (Nat.not_le.2 hexceeds)
    · exact hlater
  cases h with
  | indexTooLarge hfirst hbefore =>
    rw [hoffset]
    refine .indexTooLarge ⟨(tooLarge_append_cons hds hc).2 (.inr ⟨_, rfl, hfirst.1⟩), ?_⟩
      (hlegal hbefore)
    intro b r a h
    obtain ⟨b', rfl, h'⟩ := hlater h
    have hle := hfirst.first b' r a h'
    rw [hlength, hlength]
    omega
  | unexpectedCharacter hfirst hruns =>
    rw [hoffset]
    have hsplit := congrArg (fun rest => ds ++ c :: rest) hfirst.split
    rw [← List.cons_append, ← List.append_assoc] at hsplit
    refine .unexpectedCharacter ⟨hsplit, hlegal hfirst.legal, hfirst.stray⟩ ?_
    intro b r a h
    obtain ⟨b', rfl, h'⟩ := hlater h
    have hlt := hruns b' r a h'
    rw [hlength, hlength]
    omega

/-- A scan fails at the first fault of the digits that it holds back and the text that remains. -/
theorem located_of_scan (hrun : ∀ d ∈ run, d.isDigit = true) (hoffset : run.length ≤ offset)
    (h : scan offset run found rest = .error e) :
    Located (offset - run.length) (run.reverse ++ rest) e := by
  induction rest generalizing offset run found with
  | nil =>
    obtain ⟨hne, hexceeds, rfl⟩ := closeRun_eq_error h
    exact located_leading (isDigit_of_mem_reverse hrun) hne hexceeds (by simp)
  | cons c rest ih =>
    have hds := isDigit_of_mem_reverse hrun
    rw [scan] at h
    split at h
    · next hdigit =>
      have hlocated := ih (List.forall_mem_cons.2 ⟨hdigit, hrun⟩) (Nat.succ_le_succ hoffset) h
      simpa using hlocated
    · next hdigit =>
      split at h
      · next hsep =>
        cases hclose : closeRun offset run found with
        | error fault =>
          rw [hclose] at h
          obtain rfl : fault = e := Except.error.inj h
          obtain ⟨hne, hexceeds, rfl⟩ := closeRun_eq_error hclose
          refine located_leading hds hne hexceeds ?_
          rintro d ⟨⟩
          exact hsep
        | ok closed =>
          rw [hclose] at h
          replace h : scan (offset + 1) [] closed rest = .error e := h
          have hlocated := ih (by simp) (Nat.zero_le _) h
          refine Located.skip ?_ hds hsep ?_
          · rw [List.length_reverse, Nat.sub_add_cancel hoffset]
            exact hlocated
          · intro hne
            exact ((closeRun_eq_ok_iff hrun).1 hclose).1 _ ((hasNumber_of_digits hds).2 ⟨hne, rfl⟩)
      · next hsep =>
        obtain rfl := Except.error.inj h
        have hstray : ¬ IsLegal c := by
          rintro (hd | hs)
          · exact hdigit hd
          · exact hsep (isSeparator_iff.2 hs)
        have hlocated : Located (offset - run.length) (run.reverse ++ c :: rest)
            (.unexpectedCharacter (offset - run.length + run.reverse.length) c) :=
          located_stray hds hstray
        rw [List.length_reverse, Nat.sub_add_cancel hoffset] at hlocated
        exact hlocated

/-! ## The fault that is reported -/

theorem located_of_parse {text : String} (h : parse text = .error e) : Located 0 text.toList e := by
  unfold parse at h
  split at h
  · cases h
  · cases hscan : scan 0 [] ∅ text.toList with
    | ok set =>
      rw [hscan] at h
      cases h
    | error fault =>
      rw [hscan] at h
      obtain rfl : fault = e := Except.error.inj h
      exact located_of_scan (by simp) (Nat.zero_le _) hscan

/-- Whether a run ends before the first illegal character, if there is any. -/
def EndsBeforeStray (text before run : List Char) : Prop :=
  ∀ b c a, FirstStray text b c a → before.length + run.length ≤ b.length

/-- A legal beginning of a text ends before the first illegal character. -/
theorem FirstStray.length_le_of_isLegal {front back : List Char}
    (h : FirstStray text before c after) (hsplit : text = front ++ back)
    (hlegal : ∀ d ∈ front, IsLegal d) : front.length ≤ before.length := by
  apply Classical.byContradiction
  intro hlt
  have hleads : before ++ [c] <+: front := by
    refine List.prefix_of_prefix_length_le ⟨after, ?_⟩ ⟨back, hsplit.symm⟩ ?_
    · rw [h.split, List.append_assoc]
      rfl
    · rw [List.length_append, List.length_singleton]
      omega
  exact h.stray (hlegal c (hleads.subset (by simp)))

theorem FirstStray.unique {before' after' : List Char} {c' : Char}
    (h : FirstStray text before c after) (h' : FirstStray text before' c' after') :
    before = before' ∧ c = c' := by
  have hlength : before.length = before'.length :=
    Nat.le_antisymm (h'.length_le_of_isLegal h.split h.legal)
      (h.length_le_of_isLegal h'.split h'.legal)
  obtain ⟨hbefore, hrest⟩ := List.append_inj (h.split.symm.trans h'.split) hlength
  exact ⟨hbefore, (List.cons.inj hrest).1⟩

theorem FirstTooLarge.unique {before' run' after' : List Char}
    (h : FirstTooLarge text before run after) (h' : FirstTooLarge text before' run' after') :
    before = before' ∧ run = run' := by
  have hlength : before.length = before'.length :=
    Nat.le_antisymm (h.first _ _ _ h'.1) (h'.first _ _ _ h.1)
  obtain ⟨rfl, hrest⟩ := List.append_inj (h.split.symm.trans h'.split) hlength
  have hrun : DigitRun (run ++ after) [] run' after' :=
    ⟨hrest, h'.nonempty, h'.digits, by simp, h'.closes⟩
  obtain ⟨-, rfl, -⟩ := hrun.eq_of_leading h.digits h.closes rfl
  exact ⟨rfl, rfl⟩

theorem FirstTooLarge.endsBeforeStray (h : FirstTooLarge text before run after)
    (hlegal : ∀ d ∈ before, IsLegal d) : EndsBeforeStray text before run := by
  intro b c a hstray
  rw [← List.length_append]
  have hsplit : text = (before ++ run) ++ after := by rw [h.split, List.append_assoc]
  refine hstray.length_le_of_isLegal hsplit ?_
  intro d hd
  rcases List.mem_append.1 hd with hd | hd
  · exact hlegal d hd
  · exact isLegal_of_isDigit (h.digits d hd)

section Located

variable (h : Located 0 text e)
include h

theorem Located.eq_indexTooLarge (hlarge : FirstTooLarge text before run after)
    (hends : EndsBeforeStray text before run) :
    e = .indexTooLarge (String.ofList before).utf8ByteSize (String.ofList run) := by
  cases h with
  | indexTooLarge hfirst hlegal =>
    obtain ⟨rfl, rfl⟩ := hfirst.unique hlarge
    rw [utf8ByteSize_of_isLegal hlegal, Nat.zero_add]
  | unexpectedCharacter hfirst hruns =>
    exact absurd (hends _ _ _ hfirst) (Nat.not_le.2 (hruns _ _ _ hlarge.1))

theorem Located.exists_firstStray
    (hnone : ∀ before run after, FirstTooLarge text before run after →
      ¬ EndsBeforeStray text before run) :
    ∃ before c after, FirstStray text before c after ∧
      e = .unexpectedCharacter (String.ofList before).utf8ByteSize c := by
  cases h with
  | indexTooLarge hfirst hlegal =>
    exact absurd (hfirst.endsBeforeStray hlegal) (hnone _ _ _ hfirst)
  | unexpectedCharacter hfirst _ =>
    refine ⟨_, _, _, hfirst, ?_⟩
    rw [utf8ByteSize_of_isLegal hfirst.legal, Nat.zero_add]

/-- An illegal character directly behind a run is reported, unless an earlier run is too large. -/
theorem Located.eq_unexpectedCharacter (hrun : DigitRun text before run (c :: after))
    (hfirst : FirstStray text (before ++ run) c after)
    (hearlier : ∀ b r a, TooLarge text b r a → before.length ≤ b.length) :
    e = .unexpectedCharacter (String.ofList (before ++ run)).utf8ByteSize c := by
  have hnone : ∀ b r a, FirstTooLarge text b r a → ¬ EndsBeforeStray text b r := by
    intro b r a hlarge hends
    have hlength := hends _ _ _ hfirst
    rw [List.length_append] at hlength
    have hlt := hlarge.1.starts_before hrun hfirst.stray hlength
    exact absurd (hearlier b r a hlarge.1) (Nat.not_le.2 hlt)
  obtain ⟨before', c', after', hfirst', rfl⟩ := h.exists_firstStray hnone
  obtain ⟨rfl, rfl⟩ := hfirst'.unique hfirst
  rfl

/-- What is reported stands at the offset, behind legal characters. -/
theorem Located.exists_split :
    ∃ before after, text = before ++ (e.found.toList ++ after) ∧
      (String.ofList before).utf8ByteSize = e.offset ∧ ∀ c ∈ before, IsLegal c := by
  cases h with
  | @indexTooLarge before run after hfirst hlegal =>
    refine ⟨before, after, ?_, ?_, hlegal⟩
    · rw [Error.found, String.toList_ofList]
      exact hfirst.split
    · rw [utf8ByteSize_of_isLegal hlegal, Error.offset, Nat.zero_add]
  | @unexpectedCharacter before c after hfirst _ =>
    refine ⟨before, after, ?_, ?_, hfirst.legal⟩
    · rw [Error.found, String.toList_singleton]
      exact hfirst.split
    · rw [utf8ByteSize_of_isLegal hfirst.legal, Error.offset, Nat.zero_add]

end Located

/-- The error of a text that is refused. Let `run` be the first run of digits that is too large and
ends at a separator or at the end of the text. If there is one and it ends before the first illegal
character, or no character is illegal, it is reported; otherwise that character is. A run that the
first illegal character follows directly is not reported, however large it is. The offset counts the
bytes before what is reported, and all characters there are legal. -/
theorem refused_for_first_fault {text : String} {e : Error} (h : parse text = .error e) :
    let chars := text.toList
    (∀ before run after, FirstTooLarge chars before run after → EndsBeforeStray chars before run →
        e = .indexTooLarge (String.ofList before).utf8ByteSize (String.ofList run)) ∧
      ((∀ before run after, FirstTooLarge chars before run after →
          ¬ EndsBeforeStray chars before run) →
        ∃ before c after, FirstStray chars before c after ∧
          e = .unexpectedCharacter (String.ofList before).utf8ByteSize c) ∧
      (∀ before run c after, DigitRun chars before run (c :: after) →
        FirstStray chars (before ++ run) c after →
        (∀ b r a, TooLarge chars b r a → before.length ≤ b.length) →
          e = .unexpectedCharacter (String.ofList (before ++ run)).utf8ByteSize c) ∧
      ∃ before after : String, text = before ++ e.found ++ after ∧
        before.utf8ByteSize = e.offset ∧ ∀ c ∈ before.toList, IsLegal c := by
  intro chars
  have hlocated : Located 0 chars e := located_of_parse h
  refine ⟨?_, hlocated.exists_firstStray, ?_, ?_⟩
  · intro before run after hlarge hends
    exact hlocated.eq_indexTooLarge hlarge hends
  · intro before run c after hrun hfirst hearlier
    exact hlocated.eq_unexpectedCharacter hrun hfirst hearlier
  · obtain ⟨before, after, hsplit, hoffset, hlegal⟩ := hlocated.exists_split
    refine ⟨String.ofList before, String.ofList after, ?_, hoffset, ?_⟩
    · apply String.toList_inj.1
      simp only [String.toList_append, String.toList_ofList, List.append_assoc]
      exact hsplit
    · rwa [String.toList_ofList]

/-- The run is reported with its zeros, although a character of two bytes behind it is illegal. -/
theorem refused_for_first_fault_leading_zeros :
    parse "3 0002147483648,é" = .error (.indexTooLarge 2 "0002147483648") ∧
      ∃ before after : String, "3 0002147483648,é" = before ++ "0002147483648" ++ after ∧
        before.utf8ByteSize = 2 ∧ ∀ c ∈ before.toList, IsLegal c := by
  have hparse : parse "3 0002147483648,é" = .error (.indexTooLarge 2 "0002147483648") := by rfl
  obtain ⟨-, -, -, hfound⟩ := refused_for_first_fault hparse
  exact ⟨hparse, hfound⟩

example : parse "7,99999999999é" = .error (.unexpectedCharacter 13 'é') := by rfl

end Multihead.SelectionText
