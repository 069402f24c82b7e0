import Multihead.Proofs.Arrangement.Replay

/-!
# What becomes of written numbers

A selection text is applied alone, or as a part of settings which change the mode too. Either way it
is read before anything changes, so a text that cannot be read changes nothing. Of the numbers of
any other text, those that name a monitor are the new selection and all others are reported, each
once (`Accounts`); the word for every monitor keeps the selection (`restored_accounts`).
-/

namespace Multihead.Arrangement

open SelectionText Text

/-- Whether a report accounts for the numbers of a text, applied to the monitors of a catalog, and
the arrangement `b` is what the text and the mode make of them. -/
structure Accounts (c : Catalog) (text : String) (mode : FullscreenMode) (report : RestoreReport)
    (b : Arrangement) : Prop where
  catalog : b.catalog = c
  mode : b.mode = mode
  selection : b.selection.positions = report.applied
  applied : ∀ p : Nat, p ∈ report.applied ↔
    ∃ n, HasNumber text.toList n ∧ (1 ≤ n ∧ n ≤ c.size) ∧ p = n - 1
  rejected : ∀ i : Int, i ∈ report.rejected ↔
    ∃ n : Nat, HasNumber text.toList n ∧ ¬ (1 ≤ n ∧ n ≤ c.size) ∧ i = n - 1
  ascending : report.rejected.Pairwise (· < ·)
  clean : report.isClean = true ↔ ∀ n, HasNumber text.toList n → 1 ≤ n ∧ n ≤ c.size

variable {a b : Arrangement} {text : String} {written : SortedSet Int}

theorem restoring_all :
    restoring a b "all" = (.restored ⟨b.selection.positions, []⟩, { b with mode := .all }) :=
  restoring_of_ok (parse_eq_all_iff.2 rfl)

/-- Whatever was restored, the report lists the positions that are selected now. -/
theorem positions_of_restoring {report : RestoreReport} {next : Arrangement}
    (h : restoring a b text = (.restored report, next)) :
    next.selection.positions = report.applied := by
  unfold restoring at h
  split at h
  · cases h
  · next said _ =>
    cases h
    cases said <;> rfl

/-! ## Numbers -/

theorem mem_applied_of_parse (h : parse text = .ok (.positions written)) {count p : Nat} :
    p ∈ (Selection.restore count written).value.1.applied ↔
      ∃ n, HasNumber text.toList n ∧ (1 ≤ n ∧ n ≤ count) ∧ p = n - 1 := by
  obtain ⟨-, hwritten⟩ := parse_eq_positions_iff.1 h
  rw [Selection.mem_applied_restore, hwritten, writes_natCast]
  constructor
  · rintro ⟨hnumber, hlt⟩
    exact ⟨p + 1, hnumber, ⟨by omega, hlt⟩, rfl⟩
  · rintro ⟨n, hnumber, ⟨hpos, hle⟩, rfl⟩
    rw [Nat.sub_add_cancel hpos]
    exact ⟨hnumber, by omega⟩

theorem mem_rejected_of_parse (h : parse text = .ok (.positions written)) {count : Nat} {i : Int} :
    i ∈ (Selection.restore count written).value.1.rejected ↔
      ∃ n : Nat, HasNumber text.toList n ∧ ¬ (1 ≤ n ∧ n ≤ count) ∧ i = n - 1 := by
  obtain ⟨-, hwritten⟩ := parse_eq_positions_iff.1 h
  rw [Selection.mem_rejected_restore, hwritten]
  constructor
  · rintro ⟨⟨n, hnumber, rfl⟩, hout⟩
    exact ⟨n, hnumber, by omega, rfl⟩
  · rintro ⟨n, hnumber, hout, rfl⟩
    exact ⟨⟨n, hnumber, rfl⟩, by omega⟩

theorem isClean_of_parse (h : parse text = .ok (.positions written)) {count : Nat} :
    (Selection.restore count written).value.1.isClean = true ↔
      ∀ n, HasNumber text.toList n → 1 ≤ n ∧ n ≤ count := by
  rw [RestoreReport.isClean, List.isEmpty_iff, List.eq_nil_iff_forall_not_mem]
  simp only [mem_rejected_of_parse h]
  constructor
  · intro hnone n hnumber
    by_contra hout
    exact hnone (n - 1) ⟨n, hnumber, hout, rfl⟩
  · rintro hall i ⟨n, hnumber, hout, -⟩
    exact hout (hall n hnumber)

theorem accounts_apply (b : Arrangement) (h : parse text = .ok (.positions written)) :
    Accounts b.catalog text b.mode (b.apply (.positions written)).value.1
      (b.apply (.positions written)).value.2 where
  catalog := rfl
  mode := rfl
  selection := rfl
  applied _ := mem_applied_of_parse h
  rejected _ := mem_rejected_of_parse h
  ascending := written.ascending.filter _
  clean := isClean_of_parse h

/-- Restoring a text, alone or with settings that ask for a mode. If the text cannot be read, that
is the answer and nothing changes. The word for every monitor leads to the mode `all`, keeps the
selection and rejects nothing. Any other text accounts for its numbers, and the mode stays or is the
one that the settings ask for. Whenever a text is restored, the report lists what is selected. -/
theorem restored_accounts (a : Arrangement) (text : String) (mode : FullscreenMode) :
    let byText := (a.perform (.applyText text)).value
    let bySettings := (a.perform (.applySettings ⟨mode, text⟩)).value
    let everything := { a with mode := .all }
    (∀ e, parse text = .error e → byText = (.unreadable e, a) ∧ bySettings = (.unreadable e, a)) ∧
      (text = "all" →
        byText = (.restored ⟨a.selection.positions, []⟩, everything) ∧
          bySettings = (.restored ⟨a.selection.positions, []⟩, everything)) ∧
      (∀ said, parse text = .ok said → text ≠ "all" → ∃ report b b',
        byText = (.restored report, b) ∧ Accounts a.catalog text a.mode report b ∧
          bySettings = (.restored report, b') ∧ Accounts a.catalog text mode report b') ∧
      ∀ report b, byText = (.restored report, b) ∨ bySettings = (.restored report, b) →
        b.selection.positions = report.applied := by
  intro byText bySettings everything
  have htext : byText = restoring a a text := a.perform_applyText text
  have hsettings : bySettings = restoring a (a.setMode mode).value text :=
    a.perform_applySettings ⟨mode, text⟩
  rw [htext, hsettings]
  refine ⟨?_, ?_, ?_, ?_⟩
  · intro e he
    exact ⟨restoring_of_error he, restoring_of_error he⟩
  · rintro rfl
    exact ⟨restoring_all, restoring_all⟩
  · intro said hsaid hall
    cases said with
    | all => exact absurd (parse_eq_all_iff.1 hsaid) hall
    | positions written =>
      exact ⟨_, _, _, restoring_of_ok hsaid, accounts_apply a hsaid, restoring_of_ok hsaid,
        accounts_apply (a.setMode mode).value hsaid⟩
  · rintro report b (h | h)
    · exact positions_of_restoring h
    · exact positions_of_restoring h

-- two monitors: a zero and a stale number are reported, and what is written twice counts once
example :
    let a := (ofDisplays [⟨0, ⟨0, 0, 10, 10⟩, none⟩, ⟨1, ⟨10, 0, 10, 10⟩, none⟩]).value
    (a.perform (.applyText "7, 2 0,02")).value.1 = .restored ⟨.ofList [1], [-1, 6]⟩ := by decide

end Multihead.Arrangement
