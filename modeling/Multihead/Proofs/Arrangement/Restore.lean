import Multihead.Arrangement.Call
import Multihead.Proofs.Arrangement.Request
import Multihead.Proofs.Selection
import Multihead.Proofs.SelectionText.RoundTrip

/-!
# Saving and restoring

The settings that describe an arrangement, applied to any other arrangement of the same monitors,
give it the mode and the selection that were saved (`applySettings_settings`). The selection is kept
whole unless there are so many monitors that some positions have no written form.
-/

namespace Multihead.Arrangement

open SelectionText

/-- An arrangement is its monitors, its mode and the positions that were selected. -/
theorem eq_of_positions_eq {a b : Arrangement} (hcatalog : a.catalog = b.catalog)
    (hmode : a.mode = b.mode) (hpositions : a.selection.positions = b.selection.positions) :
    a = b := by
  obtain ⟨catalog, selection, mode⟩ := a
  obtain ⟨catalog', selection', mode'⟩ := b
  obtain rfl : catalog = catalog' := hcatalog
  obtain rfl : mode = mode' := hmode
  obtain rfl : selection = selection' := Selection.ext hpositions
  rfl

section Restored

variable {a b : Arrangement} {read : SortedSet Int}

/-- Among the same monitors, a saved selection is restored without those positions that are too
large to be written. -/
theorem mem_applied_of_parse_save (h : b.catalog = a.catalog)
    (hread : parse a.save.value = .ok (.positions read)) {p : Nat} :
    p ∈ (Selection.restore b.catalog.size read).value.1.applied ↔
      p ∈ a.selection.positions ∧ p < maxIndex := by
  rw [Selection.mem_applied_restore, parse_ofPositions_iff.1 hread]
  constructor
  · rintro ⟨⟨q, hq, hlt, hpq⟩, -⟩
    obtain rfl : p = q := Int.ofNat_inj.1 hpq
    exact ⟨hq, hlt⟩
  · rintro ⟨hp, hlt⟩
    exact ⟨⟨p, hp, hlt, rfl⟩, h ▸ a.selection.inRange p hp⟩

theorem isClean_of_parse_save (h : b.catalog = a.catalog)
    (hread : parse a.save.value = .ok (.positions read)) :
    (Selection.restore b.catalog.size read).value.1.isClean = true := by
  rw [RestoreReport.isClean, List.isEmpty_iff, List.eq_nil_iff_forall_not_mem]
  intro i hi
  obtain ⟨hi, hnames⟩ := Selection.mem_rejected_restore.1 hi
  obtain ⟨p, hp, -, rfl⟩ := (parse_ofPositions_iff.1 hread i).1 hi
  have hlt : p < b.catalog.size := h ▸ a.selection.inRange p hp
  exact hnames ⟨by omega, by omega⟩

end Restored

/-- Saving and restoring. Take two arrangements of the same monitors, whatever calls led to them,
and apply the settings of `a` to `b`. What `a` saved is never read as the word for every monitor,
and `b` takes over the mode of `a` and its selected positions, up to the largest that can be
written. Every position that is read names a monitor. Unless there are more monitors than can be
written, the outcome is `a` itself, and every query answers the same on both. -/
theorem applySettings_settings {a b : Arrangement} (h : b.catalog = a.catalog) :
    parse a.save.value ≠ .ok .all ∧
      ∃ report restored records,
        (applySettings a.settings.value).on b = ⟨(.ok report, restored), records⟩ ∧
          restored.catalog = a.catalog ∧ restored.mode = a.mode ∧
          (∀ p, p ∈ restored.selection.positions ↔
            p ∈ a.selection.positions ∧ p < 2147483647) ∧
          report.isClean = true ∧ (a.count ≤ 2147483647 → restored = a) := by
  obtain ⟨read, hsave⟩ : ∃ read, parse a.save.value = .ok (.positions read) :=
    exists_parse_eq_positions_iff.2 (wellFormed_ofPositions a.selection.positions)
  refine ⟨by rw [hsave]; exact nofun, ?_⟩
  let outcome := b.setMode a.mode >>= (·.apply (.positions read))
  have happly : (applySettings a.settings.value).on b =
      ⟨(.ok outcome.value.1, outcome.value.2), outcome.records⟩ := by
    rw [on_applySettings]
    change Request.decided b (parse a.save.value) _ = _
    rw [hsave]
    exact Logged.ext rfl (List.append_nil _)
  have hmem : ∀ p, p ∈ outcome.value.2.selection.positions ↔
      p ∈ a.selection.positions ∧ p < maxIndex := fun p => mem_applied_of_parse_save h hsave
  refine ⟨outcome.value.1, outcome.value.2, outcome.records, happly, h, rfl, hmem,
    isClean_of_parse_save h hsave, fun hcount => ?_⟩
  refine eq_of_positions_eq h rfl (SortedSet.ext fun p => ?_)
  rw [hmem]
  refine and_iff_left_of_imp fun hp => ?_
  exact Nat.lt_of_lt_of_le (a.selection.inRange p hp) hcount

/-- Two monitors: a run that ends in the mode `current` with the second selected, restored after
another that ended in the mode `all` with the first selected. -/
theorem applySettings_settings_two_monitors :
    let start := (ofDisplays [⟨0, ⟨100, 0, 100, 100⟩, none⟩, ⟨1, ⟨0, 0, 100, 100⟩, none⟩]).value
    let a := start.performAll [.toggle 1, .setMode .current]
    let b := start.performAll [.applyText "1, 7", .setMode .all]
    b.catalog = a.catalog ∧ a ≠ b ∧
      ∃ report records, (applySettings a.settings.value).on b = ⟨(.ok report, a), records⟩ ∧
        report.isClean = true := by
  intro start a b
  have hcatalog : b.catalog = a.catalog := by decide
  obtain ⟨-, report, restored, records, happly, -, -, -, hclean, hwhole⟩ :=
    applySettings_settings hcatalog
  obtain rfl : restored = a := hwhole (by decide)
  exact ⟨hcatalog, by decide, report, records, happly, hclean⟩

end Multihead.Arrangement
