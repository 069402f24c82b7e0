import Multihead.Proofs.Limits
import Multihead.Proofs.Rect

/-!
# Pixels

A pixel is a point with integer coordinates, and a rectangle covers those from its left and top edge
up to, but not including, its right and bottom edge. Two rectangles share a pixel exactly if each
has one and each reaches past the other's facing edges (`Rect.sharesPixel_iff`).

The rectangle of a box has the coordinates of the box as its edges; nothing is lost on the way
through width and height (`BoundingBox.side_rect`). So a box overlaps a rectangle exactly if they
share a pixel, as long as both have any (`BoundingBox.sharesPixel_rect_iff`).
-/

namespace Multihead

namespace Rect

/-- Whether a pixel lies in a rectangle. -/
structure Covers (r : Rect) (x y : Int) : Prop where
  left : r.x.toInt ≤ x
  right : x < r.right.toInt
  top : r.y.toInt ≤ y
  bottom : y < r.bottom.toInt

/-- Whether a rectangle has any pixel: its far edges lie beyond its near ones. -/
structure HasPixels (r : Rect) : Prop where
  across : r.x < r.right
  down : r.y < r.bottom

def SharesPixel (r s : Rect) : Prop := ∃ x y, r.Covers x y ∧ s.Covers x y

variable {r s : Rect}

/-! ## Edges -/

/-- Opposite sides of a rectangle do not cross. -/
theorem outward_add_opposite_nonneg (r : Rect) (e : Edge) :
    0 ≤ e.outward (e.side r) + e.opposite.outward (e.opposite.side r) := by
  have hacross := toInt_x_le_right r
  have hdown := toInt_y_le_bottom r
  cases e <;> simp only [Edge.outward, Edge.opposite, Edge.side] <;> omega

/-! ## Shared pixels -/

theorem Covers.hasPixels {x y : Int} (h : r.Covers x y) : r.HasPixels := by
  refine ⟨Int32.lt_iff_toInt_lt.2 ?_, Int32.lt_iff_toInt_lt.2 ?_⟩
  · exact Int.lt_of_le_of_lt h.left h.right
  · exact Int.lt_of_le_of_lt h.top h.bottom

theorem HasPixels.covers_corner (h : r.HasPixels) : r.Covers r.x.toInt r.y.toInt where
  left := Int.le_refl _
  right := Int32.lt_iff_toInt_lt.1 h.across
  top := Int.le_refl _
  bottom := Int32.lt_iff_toInt_lt.1 h.down

/-- A rectangle whose sides all lie at least as far out covers at least the same pixels. -/
theorem Covers.mono {x y : Int} (hr : r.Covers x y)
    (h : ∀ e : Edge, e.outward (e.side r) ≤ e.outward (e.side s)) : s.Covers x y := by
  obtain ⟨htop, hbottom, hleft, hright⟩ := Edge.forall_iff.1 h
  simp only [Edge.outward, Edge.side] at htop hbottom hleft hright
  obtain ⟨hl, hr, ht, hb⟩ := hr
  constructor <;> omega

/-- Where two rectangles share a pixel, each reaches past the facing edge of the other. -/
theorem Covers.reaches {x y : Int} (hr : r.Covers x y) (hs : s.Covers x y) (e : Edge) :
    r.Reaches s e := by
  cases e with
  | top => exact Int32.lt_iff_toInt_lt.2 (Int.lt_of_le_of_lt hr.top hs.bottom)
  | bottom => exact Int32.lt_iff_toInt_lt.2 (Int.lt_of_le_of_lt hs.top hr.bottom)
  | left => exact Int32.lt_iff_toInt_lt.2 (Int.lt_of_le_of_lt hr.left hs.right)
  | right => exact Int32.lt_iff_toInt_lt.2 (Int.lt_of_le_of_lt hs.left hr.right)

/-- Two rectangles share a pixel exactly if both have pixels and the one reaches past the other's
facing edge on every side. -/
theorem sharesPixel_iff :
    r.SharesPixel s ↔ r.HasPixels ∧ s.HasPixels ∧ ∀ e, s.Reaches r e := by
  constructor
  · rintro ⟨x, y, hr, hs⟩
    exact ⟨hr.hasPixels, hs.hasPixels, hs.reaches hr⟩
  · rintro ⟨⟨hrx, hry⟩, ⟨hsx, hsy⟩, hreach⟩
    obtain ⟨htop, hbottom, hleft, hright⟩ := Edge.forall_iff.1 hreach
    simp only [Reaches, Int32.lt_iff_toInt_lt] at hrx hry hsx hsy htop hbottom hleft hright
    -- the later of the two near corners is a pixel of both
    refine ⟨max r.x.toInt s.x.toInt, max r.y.toInt s.y.toInt, ⟨?_, ?_, ?_, ?_⟩, ⟨?_, ?_, ?_, ?_⟩⟩ <;>
      omega

/-- Off the last coordinate, a rectangle has pixels exactly if its width and height are not zero. -/
theorem hasPixels_iff_not_isEmpty (hx : r.x.toInt < maxCoordinate)
    (hy : r.y.toInt < maxCoordinate) : r.HasPixels ↔ r.isEmpty = false := by
  have hempty : r.isEmpty = false ↔ r.width.toNat ≠ 0 ∧ r.height.toNat ≠ 0 := by
    simp [isEmpty, ← UInt32.toNat_inj]
  rw [hempty]
  constructor
  · rintro ⟨hacross, hdown⟩
    rw [Int32.lt_iff_toInt_lt, toInt_right] at hacross
    rw [Int32.lt_iff_toInt_lt, toInt_bottom] at hdown
    omega
  · rintro ⟨hw, hh⟩
    refine ⟨?_, ?_⟩
    · rw [Int32.lt_iff_toInt_lt, toInt_right]
      omega
    · rw [Int32.lt_iff_toInt_lt, toInt_bottom]
      omega

/-- Rectangles that reach past each other's edges share a pixel unless one of them is empty. -/
theorem sharesPixel_iff_of_reaches (h : ∀ e, s.Reaches r e) :
    r.SharesPixel s ↔ r.isEmpty = false ∧ s.isEmpty = false := by
  obtain ⟨htop, hbottom, hleft, hright⟩ := Edge.forall_iff.1 h
  simp only [Reaches, Int32.lt_iff_toInt_lt] at htop hbottom hleft hright
  -- each begins before an edge of the other, and so before the last coordinate
  have hr : r.HasPixels ↔ r.isEmpty = false := by
    refine hasPixels_iff_not_isEmpty ?_ ?_
    · exact Int.lt_of_lt_of_le hright (toInt_le_maxCoordinate _)
    · exact Int.lt_of_lt_of_le hbottom (toInt_le_maxCoordinate _)
  have hs : s.HasPixels ↔ s.isEmpty = false := by
    refine hasPixels_iff_not_isEmpty ?_ ?_
    · exact Int.lt_of_lt_of_le hleft (toInt_le_maxCoordinate _)
    · exact Int.lt_of_lt_of_le htop (toInt_le_maxCoordinate _)
  rw [sharesPixel_iff, hr, hs]
  exact and_congr_right fun _ => and_iff_left h

end Rect

namespace BoundingBox

variable {c : Catalog} {positions : SortedSet Nat} {box : BoundingBox}

/-! ## The rectangle of a box -/

/-- Opposite limits of a box do not cross: a monitor that attains the one lies within the other. -/
theorem outward_limit_add_opposite_nonneg (h : ofSet c positions = some box) (e : Edge) :
    0 ≤ e.outward (box.limit e).coordinate +
      e.opposite.outward (box.limit e.opposite).coordinate := by
  obtain ⟨m, hm, hlimit⟩ := (isLimit_of_ofSet h e).attained
  have hcoordinate : (box.limit e).coordinate = e.side m.2 := congrArg Limit.coordinate hlimit
  have hopposite := (isLimit_of_ofSet h e.opposite).outermost m hm
  have hsides := m.2.outward_add_opposite_nonneg e
  rw [hcoordinate]
  omega

/-- The sides of the rectangle of a box are the limits of the box. -/
theorem side_rect (h : ofSet c positions = some box) (e : Edge) :
    e.side box.rect = (box.limit e).coordinate := by
  have hextent := outward_limit_add_opposite_nonneg h e
  cases e with
  | top => rfl
  | left => rfl
  | bottom =>
    have hle : box.top.coordinate.toInt ≤ box.bottom.coordinate.toInt := by
      simp only [limit, Edge.outward, Edge.opposite] at hextent
      omega
    have hside := Rect.toInt_farEdge_span box.top.coordinate box.bottom.coordinate
    rw [Int.max_eq_right hle] at hside
    exact Int32.toInt_inj.1 hside
  | right =>
    have hle : box.left.coordinate.toInt ≤ box.right.coordinate.toInt := by
      simp only [limit, Edge.outward, Edge.opposite] at hextent
      omega
    have hside := Rect.toInt_farEdge_span box.left.coordinate box.right.coordinate
    rw [Int.max_eq_right hle] at hside
    exact Int32.toInt_inj.1 hside

/-- A box covers the pixels of its monitors. -/
theorem covers_rect_of_mem (h : ofSet c positions = some box) {m : Nat × Rect}
    (hm : m ∈ members c positions) {x y : Int} (hcovers : m.2.Covers x y) :
    box.rect.Covers x y := by
  refine hcovers.mono fun e => ?_
  rw [side_rect h]
  exact (isLimit_of_ofSet h e).outermost m hm

/-- If all monitors of a box have pixels, so has its rectangle. -/
theorem hasPixels_rect (h : ofSet c positions = some box)
    (hall : ∀ p ∈ positions, ∀ d, c.get? p = some d → d.rect.HasPixels) : box.rect.HasPixels := by
  obtain ⟨m, hm, -⟩ := (isLimit_of_ofSet h .left).attained
  obtain ⟨hp, d, hd, hrect⟩ := mem_members.1 hm
  have hpixels : m.2.HasPixels := hrect ▸ hall m.1 hp d hd
  exact (covers_rect_of_mem h hm hpixels.covers_corner).hasPixels

theorem overlaps_iff_reaches (h : ofSet c positions = some box) {s : Rect} :
    box.overlaps s ↔ ∀ e, box.rect.Reaches s e := by
  rw [overlaps_iff]
  refine forall_congr' fun e => ?_
  rw [Rect.reaches_iff, side_rect h]

/-- A box and a rectangle share a pixel exactly if both have pixels and the box overlaps the
rectangle. -/
theorem sharesPixel_rect_iff (h : ofSet c positions = some box) {s : Rect} :
    s.SharesPixel box.rect ↔ s.HasPixels ∧ box.rect.HasPixels ∧ box.overlaps s := by
  rw [Rect.sharesPixel_iff, overlaps_iff_reaches h]

end BoundingBox

end Multihead
