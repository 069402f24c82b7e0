import Multihead.Proofs.Pixels
import Multihead.Proofs.Requirement

/-!
# Selecting more

Selecting more monitors takes nothing away. What the smaller selection reaches into, the larger one
reaches into as well (`ReachesInto.mono`), so a required monitor stays required until it is selected
itself, and an active one stays active. The frame buffer is the box of the active monitors, and a box
of more monitors lies further out on every side (`BoundingBox.exists_ofSet_of_subset`), so the
frame buffer keeps every pixel (`active_box_mono`).
-/

namespace Multihead.Catalog

variable {c : Catalog} {fewer more : SortedSet Nat}

/-- A required monitor stays required until it is selected. -/
theorem mem_required_of_subset (h : ∀ p ∈ fewer, p ∈ more) {p : Nat} (hp : p ∈ c.required fewer)
    (hmore : p ∉ more) : p ∈ c.required more := by
  obtain ⟨-, d, hd, hreach⟩ := mem_required_iff.1 hp
  exact mem_required_iff.2 ⟨hmore, d, hd, hreach.mono h⟩

/-- What is selected or required stays selected or required. -/
theorem mem_active_of_subset (h : ∀ p ∈ fewer, p ∈ more) :
    ∀ p ∈ fewer ∪ c.required fewer, p ∈ more ∪ c.required more := by
  intro p hp
  rw [SortedSet.mem_union] at hp ⊢
  by_cases hmore : p ∈ more
  · exact .inl hmore
  · rcases hp with hfewer | hrequired
    · exact absurd (h p hfewer) hmore
    · exact .inr (mem_required_of_subset h hrequired hmore)

/-- Selecting more. Let the selected and the required monitors be active. What the smaller selection
requires, the larger one selects or requires; what is active stays active; and if there is a frame
buffer, the larger selection has one too, whose edges lie at least as far out, so that it covers
every pixel of the first. -/
theorem active_box_mono (c : Catalog) {fewer more : SortedSet Nat} (h : ∀ p ∈ fewer, p ∈ more) :
    let active (selected : SortedSet Nat) := selected ∪ c.required selected
    (∀ p ∈ c.required fewer, p ∉ more → p ∈ c.required more) ∧
      (∀ p ∈ active fewer, p ∈ active more) ∧
      ∀ box, BoundingBox.ofSet c (active fewer) = some box →
        ∃ wider, BoundingBox.ofSet c (active more) = some wider ∧
          wider.left.coordinate ≤ box.left.coordinate ∧
          wider.top.coordinate ≤ box.top.coordinate ∧
          box.right.coordinate ≤ wider.right.coordinate ∧
          box.bottom.coordinate ≤ wider.bottom.coordinate ∧
          ∀ x y, box.rect.Covers x y → wider.rect.Covers x y := by
  intro active
  have hactive : ∀ p ∈ active fewer, p ∈ active more := mem_active_of_subset h
  refine ⟨fun p hp hmore => mem_required_of_subset h hp hmore, hactive, ?_⟩
  intro box hbox
  obtain ⟨wider, hwider, houtward⟩ := BoundingBox.exists_ofSet_of_subset hactive hbox
  obtain ⟨htop, hbottom, hleft, hright⟩ := Edge.forall_iff.1 houtward
  simp only [Edge.outward, BoundingBox.limit] at htop hbottom hleft hright
  refine ⟨wider, hwider, ?_, ?_, ?_, ?_, ?_⟩
  · exact Int32.le_iff_toInt_le.2 (Int.neg_le_neg_iff.1 hleft)
  · exact Int32.le_iff_toInt_le.2 (Int.neg_le_neg_iff.1 htop)
  · exact Int32.le_iff_toInt_le.2 hright
  · exact Int32.le_iff_toInt_le.2 hbottom
  · intro x y hcovers
    refine hcovers.mono fun e => ?_
    rw [BoundingBox.side_rect hbox, BoundingBox.side_rect hwider]
    exact houtward e

/-- Of the monitors `0` at the top left, `1` below it, `2` beside both and `3` at the top right, the
selection of `0` and `3` requires `2`. Selecting that one as well requires `1`, and the frame buffer
grows downwards. -/
theorem active_box_mono_overhang :
    let c := Catalog.ofDisplays [⟨0, ⟨0, 0, 100, 100⟩, none⟩, ⟨1, ⟨0, 100, 100, 100⟩, none⟩,
      ⟨2, ⟨100, 50, 100, 100⟩, none⟩, ⟨3, ⟨200, 0, 100, 100⟩, none⟩]
    let fewer : SortedSet Nat := .ofList [0, 3]
    let more : SortedSet Nat := .ofList [0, 2, 3]
    (∀ p ∈ fewer, p ∈ more) ∧ c.required fewer = .ofList [2] ∧ c.required more = .ofList [1] ∧
      ∃ wider, BoundingBox.ofSet c (more ∪ c.required more) = some wider ∧
        wider.rect = ⟨0, 0, 300, 200⟩ ∧
        ∀ x y, (⟨0, 0, 300, 150⟩ : Rect).Covers x y → wider.rect.Covers x y := by
  intro c fewer more
  have h : ∀ p ∈ fewer, p ∈ more := by
    intro p hp
    obtain rfl | rfl : p = 0 ∨ p = 3 := by simpa [fewer] using hp
    · decide
    · decide
  have hfirst : (BoundingBox.ofSet c (fewer ∪ c.required fewer)).map (·.rect) =
      some ⟨0, 0, 300, 150⟩ := by decide
  have hsecond : (BoundingBox.ofSet c (more ∪ c.required more)).map (·.rect) =
      some ⟨0, 0, 300, 200⟩ := by decide
  obtain ⟨box, hbox, hrect⟩ := Option.map_eq_some_iff.1 hfirst
  obtain ⟨-, -, hbuffer⟩ := active_box_mono c h
  obtain ⟨wider, hwider, -, -, -, -, hcovers⟩ := hbuffer box hbox
  rw [hrect] at hcovers
  have hwiderRect : wider.rect = ⟨0, 0, 300, 200⟩ := by
    rw [hwider] at hsecond
    exact Option.some.inj hsecond
  exact ⟨h, by decide, by decide, wider, hwider, hwiderRect, hcovers⟩

end Multihead.Catalog
