import Multihead.Proofs.Catalog
import Multihead.Proofs.Pixels

/-!
# The bounds of displays

The bounds of a list of displays are found side by side: each of the four folds the whole list
(`Edge.outermost?`). A box is found in one scan over positions of a catalog, which keeps track of
all sides at once. Both look for the outermost coordinate on every side (`Edge.IsOutermost`), and
that is settled by which monitors there are. So the box of some positions and the bounds of the
displays there are one rectangle, in whatever order the displays come (`map_rect_ofSet`), and the
sides of the bounds are the outermost coordinates themselves (`Edge.isOutermost_side`).
-/

namespace Multihead

-- the larger of two coordinates is computed by comparison, as every `maxOfLe` is
instance instLawfulOrderMaxInt32 : Std.LawfulOrderMax Int32 where
  max_eq_or a b := by
    change (if a ≤ b then b else a) = a ∨ _ = b
    split
    · exact .inr (if_pos ‹_›)
    · exact .inl rfl
  max_le_iff a b c := by
    change (if a ≤ b then b else a) ≤ c ↔ _
    simp only [Int32.le_iff_toInt_le]
    split <;> omega

namespace Edge

/-- The coordinate that lies furthest out on a side of some displays. -/
structure IsOutermost (e : Edge) (displays : List Display) (z : Int32) : Prop where
  attained : ∃ d ∈ displays, e.side d.rect = z
  outermost : ∀ d ∈ displays, e.outward (e.side d.rect) ≤ e.outward z

/-- The outermost coordinate as the fold over all displays that finds it. -/
def outermost? : Edge → List Display → Option Int32
  | .top, displays => (displays.map (·.rect.y)).min?
  | .bottom, displays => (displays.map (·.rect.bottom)).max?
  | .left, displays => (displays.map (·.rect.x)).min?
  | .right, displays => (displays.map (·.rect.right)).max?

variable {e : Edge} {displays : List Display} {z : Int32}

theorem isOutermost_iff :
    e.IsOutermost displays z ↔ z ∈ displays.map (e.side ·.rect) ∧
      ∀ y ∈ displays.map (e.side ·.rect), e.outward y ≤ e.outward z := by
  rw [List.mem_map, List.forall_mem_map]
  constructor
  · intro h
    exact ⟨h.attained, h.outermost⟩
  · rintro ⟨hattained, houtermost⟩
    exact ⟨hattained, houtermost⟩

theorem outermost?_eq_some_iff : e.outermost? displays = some z ↔ e.IsOutermost displays z := by
  rw [isOutermost_iff]
  cases e with
  | top => simp only [outermost?, List.min?_eq_some_iff, side, outward, Int32.le_iff_toInt_le,
      Int.neg_le_neg_iff]
  | bottom => simp only [outermost?, List.max?_eq_some_iff, side, outward, Int32.le_iff_toInt_le]
  | left => simp only [outermost?, List.min?_eq_some_iff, side, outward, Int32.le_iff_toInt_le,
      Int.neg_le_neg_iff]
  | right => simp only [outermost?, List.max?_eq_some_iff, side, outward, Int32.le_iff_toInt_le]

end Edge

theorem desktopBounds_eq_some {displays : List Display} {z : Edge → Int32}
    (h : ∀ e : Edge, e.IsOutermost displays (z e)) :
    desktopBounds displays = some (.ofEdges (z .left) (z .top) (z .right) (z .bottom)) := by
  have hfold (e : Edge) : e.outermost? displays = some (z e) := Edge.outermost?_eq_some_iff.2 (h e)
  have hunfold : desktopBounds displays = do
      let left ← Edge.outermost? .left displays
      let top ← Edge.outermost? .top displays
      let right ← Edge.outermost? .right displays
      let bottom ← Edge.outermost? .bottom displays
      return Rect.ofEdges left top right bottom := rfl
  simp only [hunfold, hfold]
  rfl

namespace BoundingBox

variable {c : Catalog} {positions : SortedSet Nat} {displays : List Display}

/-- The limits of a box are the outermost coordinates of its monitors. -/
theorem isOutermost_limit {box : BoundingBox} (hbox : ofSet c positions = some box)
    (h : ∀ d, d ∈ displays ↔ ∃ p ∈ positions, c.get? p = some d) (e : Edge) :
    e.IsOutermost displays (box.limit e).coordinate := by
  have hlimit := isLimit_of_ofSet hbox e
  constructor
  · obtain ⟨m, hm, hattained⟩ := hlimit.attained
    obtain ⟨hp, d, hd, hrect⟩ := mem_members.1 hm
    refine ⟨d, (h d).2 ⟨m.1, hp, hd⟩, ?_⟩
    rw [hattained, hrect]
  · intro d hd
    obtain ⟨p, hp, hget⟩ := (h d).1 hd
    have hmember : (p, d.rect) ∈ members c positions := mem_members.2 ⟨hp, d, hget, rfl⟩
    exact hlimit.outermost (p, d.rect) hmember

/-- The box of some positions has the rectangle that bounds the displays there. -/
theorem map_rect_ofSet (h : ∀ d, d ∈ displays ↔ ∃ p ∈ positions, c.get? p = some d) :
    (ofSet c positions).map (·.rect) = desktopBounds displays := by
  cases hbox : ofSet c positions with
  | none =>
    have hnone := ofSet_eq_none_iff.1 hbox
    have hnil : displays = [] := by
      rw [List.eq_nil_iff_forall_not_mem]
      intro d hd
      obtain ⟨p, hp, hget⟩ := (h d).1 hd
      rw [hnone p hp] at hget
      cases hget
    rw [hnil]
    rfl
  | some box => exact (desktopBounds_eq_some (isOutermost_limit hbox h)).symm

end BoundingBox

/-! ## The sides of the bounds -/

variable {displays : List Display} {bounds : Rect}

/-- Some displays are what all positions of their own catalog name. -/
theorem mem_iff_exists_get?_ofDisplays (displays : List Display) (d : Display) :
    d ∈ displays ↔ ∃ p ∈ SortedSet.range (Catalog.ofDisplays displays).size,
      (Catalog.ofDisplays displays).get? p = some d := by
  rw [← (Catalog.perm_ofDisplays displays).mem_iff, Catalog.mem_monitors_iff]
  constructor
  · rintro ⟨p, hd⟩
    exact ⟨p, SortedSet.mem_range.2 (Catalog.get?_eq_some_lt hd), hd⟩
  · rintro ⟨p, -, hd⟩
    exact ⟨p, hd⟩

/-- The bounds are the rectangle of a box, so that none of their sides is lost on the way through
width and height. -/
theorem Edge.isOutermost_side (h : desktopBounds displays = some bounds) (e : Edge) :
    e.IsOutermost displays (e.side bounds) := by
  have hmem := mem_iff_exists_get?_ofDisplays displays
  have hmap := BoundingBox.map_rect_ofSet hmem
  rw [h] at hmap
  obtain ⟨box, hbox, hrect⟩ := Option.map_eq_some_iff.1 hmap
  rw [← hrect, BoundingBox.side_rect hbox]
  exact BoundingBox.isOutermost_limit hbox hmem e

theorem exists_desktopBounds (h : displays ≠ []) :
    ∃ bounds, desktopBounds displays = some bounds := by
  obtain ⟨d, hd⟩ := List.exists_mem_of_ne_nil displays h
  have hmem := mem_iff_exists_get?_ofDisplays displays
  obtain ⟨p, hp, hget⟩ := (hmem d).1 hd
  obtain ⟨box, hbox⟩ := BoundingBox.exists_ofSet_of_get? hp hget
  refine ⟨box.rect, ?_⟩
  rw [← BoundingBox.map_rect_ofSet hmem, hbox, Option.map_some]

end Multihead
