import Multihead.Proofs.Limits
import Multihead.Requirement

/-!
# Required monitors and the frame buffer

A monitor is required if it is not selected and the selected monitors reach into it from all four
sides (`mem_required_iff`). Requiredness is judged by the box of the selection, while the frame
buffer is the box of the selected and the required monitors. A required monitor may overhang the
first box, and the frame buffer may then cover monitors that are neither selected nor required
(`overhang_is_not_covered`). `required_covers_iff` says exactly when it does not.
-/

namespace Multihead.Catalog

variable {c : Catalog} {selected : SortedSet Nat}

theorem overlaps_eq_true_iff {box : BoundingBox} (hbox : BoundingBox.ofSet c selected = some box)
    {p : Nat} :
    c.overlaps box p = true ↔ ∃ d, c.get? p = some d ∧ c.ReachesInto selected d.rect := by
  rw [overlaps, Option.any_eq_true]
  simp only [BoundingBox.overlaps_iff_reachesInto hbox]

/-- A monitor is required if it is not selected and the selection reaches into it from all sides. -/
theorem mem_required_iff {p : Nat} :
    p ∈ c.required selected ↔
      p ∉ selected ∧ ∃ d, c.get? p = some d ∧ c.ReachesInto selected d.rect := by
  constructor
  · intro hp
    cases hbox : BoundingBox.ofSet c selected with
    | none => simp [required, hbox] at hp
    | some box =>
      simp only [required, hbox, SortedSet.mem_filter, Bool.and_eq_true, decide_eq_true_eq] at hp
      obtain ⟨-, hps, hover⟩ := hp
      exact ⟨hps, (overlaps_eq_true_iff hbox).1 hover⟩
  · rintro ⟨hps, d, hd, hreach⟩
    obtain ⟨box, hbox⟩ := BoundingBox.exists_ofSet_of_reachesInto hreach
    have hover : c.overlaps box p = true := (overlaps_eq_true_iff hbox).2 ⟨d, hd, hreach⟩
    simp only [required, hbox, SortedSet.mem_filter, SortedSet.mem_range, Bool.and_eq_true,
      decide_eq_true_eq]
    exact ⟨get?_eq_some_lt hd, hps, hover⟩

/-! ## Requiring the required -/

/-- Nothing outside of a set is overlapped by its box exactly if the set requires nothing. -/
theorem required_eq_empty_iff_overlaps :
    c.required selected = ∅ ↔
      ∀ box, BoundingBox.ofSet c selected = some box → ∀ p, p ∉ selected →
        c.overlaps box p = false := by
  simp only [SortedSet.eq_empty_iff, Bool.eq_false_iff]
  constructor
  · intro h box hbox p hps hover
    exact h p (mem_required_iff.2 ⟨hps, (overlaps_eq_true_iff hbox).1 hover⟩)
  · intro h p hp
    obtain ⟨hps, d, hd, hreach⟩ := mem_required_iff.1 hp
    obtain ⟨box, hbox⟩ := BoundingBox.exists_ofSet_of_reachesInto hreach
    exact h box hbox p hps ((overlaps_eq_true_iff hbox).2 ⟨d, hd, hreach⟩)

/-- The selected and the required monitors require no others exactly if they reach into no monitor
that the selected ones do not reach into. -/
theorem required_union_eq_empty_iff :
    c.required (selected ∪ c.required selected) = ∅ ↔
      ∀ p d, c.get? p = some d → p ∉ selected →
        c.ReachesInto (selected ∪ c.required selected) d.rect → c.ReachesInto selected d.rect := by
  rw [SortedSet.eq_empty_iff]
  constructor
  · intro h p d hd hps hreach
    by_cases hpr : p ∈ c.required selected
    · obtain ⟨-, e, he, hsel⟩ := mem_required_iff.1 hpr
      obtain rfl := Option.some.inj (hd.symm.trans he)
      exact hsel
    · have hactive : p ∉ selected ∪ c.required selected := by simp [hps, hpr]
      exact absurd (mem_required_iff.2 ⟨hactive, d, hd, hreach⟩) (h p)
  · intro h p hp
    obtain ⟨hactive, d, hd, hreach⟩ := mem_required_iff.1 hp
    obtain ⟨hps, hpr⟩ : p ∉ selected ∧ p ∉ c.required selected := by simpa using hactive
    exact hpr (mem_required_iff.2 ⟨hps, d, hd, h p d hd hps hreach⟩)

/-- When the frame buffer covers only what is captured. Let the selected and the required monitors
be active. No other monitor overlaps their box, and equally nothing is required any more once they
are all selected, exactly if every unselected monitor that the active ones reach into from all sides
is reached into by the selected ones. Selecting what is required then keeps the frame buffer. -/
theorem required_covers_iff (c : Catalog) (selected : SortedSet Nat) :
    let active := selected ∪ c.required selected
    let covered := ∀ p d, c.get? p = some d → p ∉ selected →
      c.ReachesInto active d.rect → c.ReachesInto selected d.rect
    ((∀ box, BoundingBox.ofSet c active = some box → ∀ p, p ∉ active →
        c.overlaps box p = false) ↔ covered) ∧
      (c.required active = ∅ ↔ covered) ∧
      (covered →
        BoundingBox.ofSet c (active ∪ c.required active) = BoundingBox.ofSet c active) := by
  intro active covered
  have hempty : c.required active = ∅ ↔ covered := required_union_eq_empty_iff
  refine ⟨?_, hempty, fun hcovered => ?_⟩
  · rw [← required_eq_empty_iff_overlaps]
    exact hempty
  · rw [hempty.2 hcovered, SortedSet.union_empty]

/-- Of the monitors `0` at the top left, `1` below it, `2` beside both and `3` at the top right, the
selection of `0` and `3` requires `2`. That one hangs below the box of the selection, so the frame
buffer covers a part of `1`; selecting `2` as well requires `1` and enlarges the frame buffer. -/
theorem overhang_is_not_covered :
    let c := Catalog.ofDisplays [⟨0, ⟨0, 0, 100, 100⟩, none⟩, ⟨1, ⟨0, 100, 100, 100⟩, none⟩,
      ⟨2, ⟨100, 50, 100, 100⟩, none⟩, ⟨3, ⟨200, 0, 100, 100⟩, none⟩]
    let selected : SortedSet Nat := .ofList [0, 3]
    let active := selected ∪ c.required selected
    c.required selected = .ofList [2] ∧
      1 ∉ active ∧ (∃ box, BoundingBox.ofSet c active = some box ∧ c.overlaps box 1 = true) ∧
      c.required active = .ofList [1] ∧
      (BoundingBox.ofSet c active).map (·.rect) = some ⟨0, 0, 300, 150⟩ ∧
      (BoundingBox.ofSet c (active ∪ c.required active)).map (·.rect) = some ⟨0, 0, 300, 200⟩ := by
  refine ⟨by decide, by decide, ⟨_, rfl, by decide⟩, by decide, by decide, by decide⟩

end Multihead.Catalog
