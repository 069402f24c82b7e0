import Multihead.Proofs.Pixels
import Multihead.Proofs.Requirement

/-!
# Selecting monitors within the box

A monitor that lies between the edges of a box moves none of them when it is taken in, although it
may take an edge over from a monitor at a higher position (`limit_ofSet_union`). What a selection
reaches into is settled by the coordinates of its box, so monitors selected within the box leave the
requirement and change nothing else about it (`enclosed_selection`). If all required monitors lie
within the box, it is the frame buffer already, and to select them settles the selection.
-/

namespace Multihead

theorem SortedSet.filter_not_mem_self (s : SortedSet Nat) : s.filter (· ∉ s) = ∅ := by
  rw [eq_empty_iff]
  intro a ha
  obtain ⟨hmem, hnot⟩ := mem_filter.1 ha
  exact of_decide_eq_true hnot hmem

namespace BoundingBox

/-- Whether a rectangle lies between the edges of a box. -/
structure Encloses (box : BoundingBox) (r : Rect) : Prop where
  left : box.left.coordinate ≤ r.x
  right : r.right ≤ box.right.coordinate
  top : box.top.coordinate ≤ r.y
  bottom : r.bottom ≤ box.bottom.coordinate

variable {c : Catalog} {selected more : SortedSet Nat} {box wider : BoundingBox} {r : Rect}

theorem Encloses.outward_le (h : box.Encloses r) (e : Edge) :
    e.outward (e.side r) ≤ e.outward (box.limit e).coordinate := by
  cases e with
  | top => exact Int.neg_le_neg (Int32.le_iff_toInt_le.1 h.top)
  | bottom => exact Int32.le_iff_toInt_le.1 h.bottom
  | left => exact Int.neg_le_neg (Int32.le_iff_toInt_le.1 h.left)
  | right => exact Int32.le_iff_toInt_le.1 h.right

theorem rect_congr (h : ∀ e, (wider.limit e).coordinate = (box.limit e).coordinate) :
    wider.rect = box.rect := by
  obtain ⟨htop, hbottom, hleft, hright⟩ := Edge.forall_iff.1 h
  simp only [limit] at htop hbottom hleft hright
  rw [rect, rect, htop, hbottom, hleft, hright]

theorem overlaps_congr (h : ∀ e, (wider.limit e).coordinate = (box.limit e).coordinate) :
    wider.overlaps r ↔ box.overlaps r := by
  rw [overlaps_iff, overlaps_iff]
  simp only [h]

/-- Whether the monitors at some positions, as far as there are any, lie within a box. -/
def EnclosesAll (box : BoundingBox) (c : Catalog) (positions : SortedSet Nat) : Prop :=
  ∀ p ∈ positions, ∀ d, c.get? p = some d → box.Encloses d.rect

section Union

variable (hbox : ofSet c selected = some box) (hmore : box.EnclosesAll c more)
include hbox hmore

/-- Monitors within the box of others do not move its edges. -/
theorem limit_ofSet_union :
    ∃ wider, ofSet c (selected ∪ more) = some wider ∧
      ∀ e, (wider.limit e).coordinate = (box.limit e).coordinate := by
  have hsub : ∀ p ∈ selected, p ∈ selected ∪ more := fun p hp => SortedSet.mem_union.2 (.inl hp)
  obtain ⟨wider, hwider, houtward⟩ := exists_ofSet_of_subset hsub hbox
  refine ⟨wider, hwider, ?_⟩
  intro e
  apply Edge.eq_of_outward_eq (e := e)
  apply Int.le_antisymm
  · -- the outermost monitor of the union is one of the box, or lies within it
    obtain ⟨m, hm, hlimit⟩ := (isLimit_of_ofSet hwider e).attained
    obtain ⟨hp, d, hd, hrect⟩ := mem_members.1 hm
    have hcoordinate : (wider.limit e).coordinate = e.side m.2 := congrArg Limit.coordinate hlimit
    rw [hcoordinate]
    rcases SortedSet.mem_union.1 hp with hselected | hm'
    · have hmember : m ∈ members c selected := mem_members.2 ⟨hselected, d, hd, hrect⟩
      exact (isLimit_of_ofSet hbox e).outermost m hmember
    · rw [← hrect]
      exact (hmore m.1 hm' d hd).outward_le e
  · exact houtward e

theorem reachesInto_union_iff {s : Rect} :
    c.ReachesInto (selected ∪ more) s ↔ c.ReachesInto selected s := by
  obtain ⟨wider, hwider, hlimits⟩ := limit_ofSet_union hbox hmore
  rw [← overlaps_iff_reachesInto hwider, ← overlaps_iff_reachesInto hbox]
  exact overlaps_congr hlimits

end Union

end BoundingBox

namespace Catalog

variable {c : Catalog} {selected more : SortedSet Nat} {box : BoundingBox}

/-- Monitors selected within the box are no longer required, and all others are as before. -/
theorem required_union_of_enclosesAll (hbox : BoundingBox.ofSet c selected = some box)
    (hmore : box.EnclosesAll c more) :
    c.required (selected ∪ more) = (c.required selected).filter (· ∉ more) := by
  ext p
  rw [SortedSet.mem_filter, mem_required_iff, mem_required_iff]
  simp only [SortedSet.mem_union, not_or, decide_eq_true_eq,
    BoundingBox.reachesInto_union_iff hbox hmore]
  constructor
  · rintro ⟨⟨hselected, hp⟩, hreach⟩
    exact ⟨⟨hselected, hreach⟩, hp⟩
  · rintro ⟨⟨hselected, hreach⟩, hp⟩
    exact ⟨⟨hselected, hp⟩, hreach⟩

/-- Selecting within the box. Of a selection that has a box, let more monitors be selected that lie
between the edges of the box. The edges keep their coordinates, and exactly the newly selected
monitors are no longer required. Let the selected and the required monitors be active. If all
required monitors lie within the box, then the frame buffer, the box of the active monitors, has the
rectangle of the first box, and when all of them are selected nothing is required and the frame
buffer is still the same. -/
theorem enclosed_selection (c : Catalog) {selected more : SortedSet Nat} {box : BoundingBox}
    (hbox : BoundingBox.ofSet c selected = some box)
    (hmore : box.EnclosesAll c more) :
    (∃ wider, BoundingBox.ofSet c (selected ∪ more) = some wider ∧
        ∀ e, (wider.limit e).coordinate = (box.limit e).coordinate) ∧
      c.required (selected ∪ more) = (c.required selected).filter (· ∉ more) ∧
      let active := selected ∪ c.required selected
      box.EnclosesAll c (c.required selected) →
        c.required active = ∅ ∧
          (BoundingBox.ofSet c active).map (·.rect) = some box.rect ∧
          (BoundingBox.ofSet c (active ∪ c.required active)).map (·.rect) = some box.rect := by
  refine ⟨BoundingBox.limit_ofSet_union hbox hmore, required_union_of_enclosesAll hbox hmore, ?_⟩
  intro active hrequired
  have hempty : c.required active = ∅ := by
    rw [required_union_of_enclosesAll hbox hrequired, SortedSet.filter_not_mem_self]
  have hrect : (BoundingBox.ofSet c active).map (·.rect) = some box.rect := by
    obtain ⟨wider, hwider, hlimits⟩ := BoundingBox.limit_ofSet_union hbox hrequired
    rw [hwider, Option.map_some, BoundingBox.rect_congr hlimits]
  refine ⟨hempty, hrect, ?_⟩
  rw [hempty, SortedSet.union_empty]
  exact hrect

/-- Of the monitors `0` at the top left, `1` below it and `2` to the right of both, the selection of
`1` and `2` requires `0`, which lies within their box. When it is selected, it limits the left edge
in place of `1`, and the edge stays where it is. -/
theorem enclosed_selection_takes_edge :
    let c := Catalog.ofDisplays [⟨0, ⟨0, 0, 100, 100⟩, none⟩, ⟨1, ⟨0, 100, 100, 100⟩, none⟩,
      ⟨2, ⟨100, 0, 100, 200⟩, none⟩]
    let selected : SortedSet Nat := .ofList [1, 2]
    let more : SortedSet Nat := .ofList [0]
    c.required selected = .ofList [0] ∧ c.required (selected ∪ more) = ∅ ∧
      ∃ box wider, BoundingBox.ofSet c selected = some box ∧
        BoundingBox.ofSet c (selected ∪ more) = some wider ∧
        box.left.position = 1 ∧ wider.left.position = 0 ∧
        ∀ e, (wider.limit e).coordinate = (box.limit e).coordinate := by
  intro c selected more
  obtain ⟨box, hbox⟩ : ∃ box, BoundingBox.ofSet c selected = some box := ⟨_, rfl⟩
  have hmore : box.EnclosesAll c more := by
    obtain rfl := Option.some.inj hbox
    intro p hp d hd
    obtain rfl : p = 0 := by simpa [more] using hp
    obtain rfl := Option.some.inj hd
    constructor <;> decide
  obtain ⟨⟨wider, hwider, hlimits⟩, hrequired, -⟩ := enclosed_selection c hbox hmore
  have hfirst : c.required selected = .ofList [0] := by decide
  refine ⟨hfirst, ?_, box, wider, hbox, hwider, ?_, ?_, hlimits⟩
  · rw [hrequired, hfirst]
    exact SortedSet.filter_not_mem_self _
  · obtain rfl := Option.some.inj hbox
    decide
  · obtain rfl := Option.some.inj hwider
    decide

end Catalog

end Multihead
