/-!
# Runs of digits

A run of digits of a text is maximal: no digit stands right before it or right behind it. The runs
of a text are those of its pieces between other characters (`digitRun_append_cons`,
`digitRun_of_digits`), and the numbers in the text are their values, read as decimals.
-/

namespace Multihead.Text

/-- `run` is a maximal run of digits of `text`, with `before` in front of it and `after` behind. -/
structure DigitRun (text before run after : List Char) : Prop where
  split : text = before ++ (run ++ after)
  nonempty : run ≠ []
  digits : ∀ c ∈ run, c.isDigit = true
  opens : ∀ c, before.getLast? = some c → c.isDigit = false
  closes : ∀ c, after.head? = some c → c.isDigit = false

/-- Whether a number stands in a text: a maximal run of digits has this value. -/
def HasNumber (text : List Char) (n : Nat) : Prop :=
  ∃ before run after, DigitRun text before run after ∧ Nat.ofDigitChars 10 run 0 = n

variable {ds tail rest before run after : List Char} {c : Char} {n : Nat}

/-- A run that starts within leading digits is all of them. -/
theorem DigitRun.eq_of_leading {more : List Char} (h : DigitRun (ds ++ tail) before run after)
    (hds : ∀ d ∈ ds, d.isDigit = true) (htail : ∀ d, tail.head? = some d → d.isDigit = false)
    (hbefore : ds = before ++ more) : before = [] ∧ run = ds ∧ after = tail := by
  obtain rfl : before = [] := by
    refine List.eq_nil_iff_forall_not_mem.2 fun d hd => ?_
    obtain ⟨e, he⟩ := Option.isSome_iff_exists.1
      (List.getLast?_isSome.2 (List.ne_nil_of_mem hd))
    have hdigit := hds e (hbefore ▸ List.mem_append_left _ (List.mem_of_getLast? he))
    rw [h.opens e he] at hdigit
    cases hdigit
  have hsplit : ds ++ tail = run ++ after := h.split
  rcases List.append_eq_append_iff.1 hsplit with ⟨as, hrun, htl⟩ | ⟨as, hds', hafter⟩
  · cases as with
    | nil => exact ⟨rfl, by simpa using hrun, by simpa using htl.symm⟩
    | cons d as =>
      have hdigit := h.digits d (hrun ▸ by simp)
      rw [htail d (htl ▸ rfl)] at hdigit
      cases hdigit
  · cases as with
    | nil => exact ⟨rfl, by simpa using hds'.symm, by simpa using hafter⟩
    | cons d as =>
      have hdigit := hds d (hds' ▸ by simp)
      rw [h.closes d (hafter ▸ rfl)] at hdigit
      cases hdigit

theorem digitRun_of_digits (hds : ∀ d ∈ ds, d.isDigit = true) :
    DigitRun ds before run after ↔ ds ≠ [] ∧ before = [] ∧ run = ds ∧ after = [] := by
  constructor
  · intro h
    have h' : DigitRun (ds ++ []) before run after := by simpa using h
    obtain ⟨hb, hr, ha⟩ := h'.eq_of_leading hds (by simp) h.split
    exact ⟨hr ▸ h.nonempty, hb, hr, ha⟩
  · rintro ⟨hne, rfl, rfl, rfl⟩
    exact ⟨by simp, hne, hds, by simp, by simp⟩

/-- The runs of a text are its leading digits, if any, and the runs behind the first character that
is no digit. -/
theorem digitRun_append_cons (hds : ∀ d ∈ ds, d.isDigit = true) (hc : c.isDigit = false) :
    DigitRun (ds ++ c :: rest) before run after ↔
      ds ≠ [] ∧ before = [] ∧ run = ds ∧ after = c :: rest ∨
        ∃ b, before = ds ++ c :: b ∧ DigitRun rest b run after := by
  have htail : ∀ d, (c :: rest).head? = some d → d.isDigit = false := by
    rintro d ⟨⟩
    exact hc
  constructor
  · intro h
    rcases List.append_eq_append_iff.1 h.split with ⟨as, hbefore, hsplit⟩ | ⟨as, hbefore, hsplit⟩
    · right
      cases as with
      | nil =>
        -- the run would start with `c`
        obtain ⟨d, run', rfl⟩ := List.exists_cons_of_ne_nil h.nonempty
        obtain ⟨rfl, -⟩ := List.cons.inj hsplit
        have hdigit := h.digits c List.mem_cons_self
        rw [hc] at hdigit
        cases hdigit
      | cons d b =>
        obtain ⟨rfl, hrest⟩ := List.cons.inj hsplit
        refine ⟨b, hbefore, hrest, h.nonempty, h.digits, fun e he => ?_, h.closes⟩
        refine h.opens e ?_
        rw [hbefore, List.getLast?_append, List.getLast?_cons, he]
        rfl
    · left
      obtain ⟨hb, hr, ha⟩ := h.eq_of_leading hds htail hbefore
      exact ⟨hr ▸ h.nonempty, hb, hr, ha⟩
  · rintro (⟨hne, rfl, rfl, rfl⟩ | ⟨b, rfl, h⟩)
    · exact ⟨rfl, hne, hds, by simp, htail⟩
    · refine ⟨by simp [h.split], h.nonempty, h.digits, fun e he => ?_, h.closes⟩
      rw [List.getLast?_append, List.getLast?_cons, Option.some_or] at he
      cases hlast : b.getLast? with
      | none =>
        rw [hlast] at he
        cases he
        exact hc
      | some d =>
        rw [hlast] at he
        cases he
        exact h.opens _ hlast

theorem hasNumber_of_digits (hds : ∀ d ∈ ds, d.isDigit = true) :
    HasNumber ds n ↔ ds ≠ [] ∧ Nat.ofDigitChars 10 ds 0 = n := by
  constructor
  · rintro ⟨before, run, after, h, hn⟩
    obtain ⟨hne, -, rfl, -⟩ := (digitRun_of_digits hds).1 h
    exact ⟨hne, hn⟩
  · rintro ⟨hne, hn⟩
    exact ⟨[], ds, [], (digitRun_of_digits hds).2 ⟨hne, rfl, rfl, rfl⟩, hn⟩

theorem hasNumber_append_cons (hds : ∀ d ∈ ds, d.isDigit = true) (hc : c.isDigit = false) :
    HasNumber (ds ++ c :: rest) n ↔ HasNumber ds n ∨ HasNumber rest n := by
  rw [hasNumber_of_digits hds]
  constructor
  · rintro ⟨before, run, after, h, hn⟩
    rcases (digitRun_append_cons hds hc).1 h with ⟨hne, -, rfl, -⟩ | ⟨b, -, h⟩
    · exact .inl ⟨hne, hn⟩
    · exact .inr ⟨b, run, after, h, hn⟩
  · rintro (⟨hne, hn⟩ | ⟨b, run, after, h, hn⟩)
    · exact ⟨[], ds, c :: rest, (digitRun_append_cons hds hc).2 (.inl ⟨hne, rfl, rfl, rfl⟩), hn⟩
    · exact ⟨_, run, after, (digitRun_append_cons hds hc).2 (.inr ⟨b, rfl, h⟩), hn⟩

end Multihead.Text
