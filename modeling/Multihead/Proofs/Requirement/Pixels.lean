import Multihead.Proofs.Pixels
import Multihead.Proofs.Requirement

/-!
# Required monitors on the screen

What requires a monitor, edge by edge and pixel by pixel. Four comparisons of edges decide it. As
long as the monitor and the selected ones have pixels, a monitor that was not selected is required
exactly if it shares a pixel with the box of the selection (`mem_required_iff_edges_and_pixels`).

Edges alone do not see that a rectangle is empty. A monitor of no width inside of the box is
required although it shows nothing, and so is a monitor around a box of no width
(`required_without_shared_pixel`). `sharesPixel_iff_of_mem_required` says exactly which required
monitors share a pixel with the box.
-/

namespace Multihead.Catalog

variable {c : Catalog} {selected : SortedSet Nat} {p : Nat}

/-- The selection reaches into a rectangle if selected monitors end behind its left and its top
edge, and selected monitors begin before its right and its bottom edge. -/
theorem reachesInto_iff_edges {s : Rect} :
    c.ReachesInto selected s ↔
      (∃ q ∈ selected, ∃ d, c.get? q = some d ∧ s.x < d.rect.right) ∧
        (∃ q ∈ selected, ∃ d, c.get? q = some d ∧ d.rect.x < s.right) ∧
        (∃ q ∈ selected, ∃ d, c.get? q = some d ∧ s.y < d.rect.bottom) ∧
        ∃ q ∈ selected, ∃ d, c.get? q = some d ∧ d.rect.y < s.bottom := by
  unfold ReachesInto
  rw [Edge.forall_iff]
  simp only [Rect.Reaches]
  constructor
  · rintro ⟨htop, hbottom, hleft, hright⟩
    exact ⟨hright, hleft, hbottom, htop⟩
  · rintro ⟨hright, hleft, hbottom, htop⟩
    exact ⟨htop, hbottom, hleft, hright⟩

theorem exists_overlaps_of_mem_required (h : p ∈ c.required selected) :
    ∃ m box, c.get? p = some m ∧ BoundingBox.ofSet c selected = some box ∧
      box.overlaps m.rect = true := by
  obtain ⟨-, m, hm, hreach⟩ := mem_required_iff.1 h
  obtain ⟨box, hbox⟩ := BoundingBox.exists_ofSet_of_reachesInto hreach
  exact ⟨m, box, hm, hbox, (BoundingBox.overlaps_iff_reachesInto hbox).2 hreach⟩

/-- A monitor with pixels that was not selected is required exactly if it shares a pixel with the
box of the selection, provided that the selected monitors have pixels as well. -/
theorem mem_required_iff_sharesPixel {m : Display} (hm : c.get? p = some m) (hp : p ∉ selected)
    (hpixels : m.rect.HasPixels)
    (hall : ∀ q ∈ selected, ∀ d, c.get? q = some d → d.rect.HasPixels) :
    p ∈ c.required selected ↔
      ∃ box, BoundingBox.ofSet c selected = some box ∧ m.rect.SharesPixel box.rect := by
  constructor
  · intro h
    obtain ⟨d, box, hd, hbox, hover⟩ := exists_overlaps_of_mem_required h
    obtain rfl := Option.some.inj (hm.symm.trans hd)
    have hrect : box.rect.HasPixels := BoundingBox.hasPixels_rect hbox hall
    exact ⟨box, hbox, (BoundingBox.sharesPixel_rect_iff hbox).2 ⟨hpixels, hrect, hover⟩⟩
  · rintro ⟨box, hbox, hshares⟩
    obtain ⟨-, -, hover⟩ := (BoundingBox.sharesPixel_rect_iff hbox).1 hshares
    have hreach : c.ReachesInto selected m.rect :=
      (BoundingBox.overlaps_iff_reachesInto hbox).1 hover
    exact mem_required_iff.2 ⟨hp, m, hm, hreach⟩

/-- What requires a monitor. The monitor at a position is required exactly if the position names
one, is not selected, and for each edge of the monitor some selected one reaches past it from its
own side; touching is not enough. As long as this monitor and the selected ones have pixels, and it
is not selected, that is so exactly if it shares a pixel with the box of the selection. -/
theorem mem_required_iff_edges_and_pixels (c : Catalog) (selected : SortedSet Nat) (p : Nat) :
    (p ∈ c.required selected ↔ p ∉ selected ∧ ∃ m, c.get? p = some m ∧
      (∃ q ∈ selected, ∃ d, c.get? q = some d ∧ m.rect.x < d.rect.right) ∧
      (∃ q ∈ selected, ∃ d, c.get? q = some d ∧ d.rect.x < m.rect.right) ∧
      (∃ q ∈ selected, ∃ d, c.get? q = some d ∧ m.rect.y < d.rect.bottom) ∧
      ∃ q ∈ selected, ∃ d, c.get? q = some d ∧ d.rect.y < m.rect.bottom) ∧
    ∀ m, c.get? p = some m → p ∉ selected → m.rect.HasPixels →
      (∀ q ∈ selected, ∀ d, c.get? q = some d → d.rect.HasPixels) →
      (p ∈ c.required selected ↔ ∃ box, BoundingBox.ofSet c selected = some box ∧
        ∃ x y, m.rect.Covers x y ∧ box.rect.Covers x y) := by
  constructor
  · rw [mem_required_iff]
    simp only [reachesInto_iff_edges]
  · intro m hm hp hpixels hall
    exact mem_required_iff_sharesPixel hm hp hpixels hall

/-- Both monitors are cut off at the last coordinate, and share pixels before it. -/
theorem mem_required_iff_edges_and_pixels_cut_off :
    let c := Catalog.ofDisplays [⟨0, ⟨2147483600, 0, 4294967295, 100⟩, none⟩,
      ⟨1, ⟨2147483640, 50, 100, 4294967295⟩, none⟩]
    1 ∈ c.required (.ofList [0]) ∧
      ∃ box, BoundingBox.ofSet c (.ofList [0]) = some box ∧
        ∃ x y, (⟨2147483640, 50, 100, 4294967295⟩ : Rect).Covers x y ∧ box.rect.Covers x y := by
  intro c
  have hrequired : 1 ∈ c.required (.ofList [0]) := by decide
  have hall : ∀ q ∈ SortedSet.ofList [0], ∀ d, c.get? q = some d → d.rect.HasPixels := by
    intro q hq d hd
    obtain rfl : q = 0 := by simpa using hq
    obtain rfl : ⟨0, ⟨2147483600, 0, 4294967295, 100⟩, none⟩ = d := Option.some.inj hd
    exact ⟨by decide, by decide⟩
  obtain ⟨-, hpixels⟩ := mem_required_iff_edges_and_pixels c (.ofList [0]) 1
  have hiff := hpixels ⟨1, ⟨2147483640, 50, 100, 4294967295⟩, none⟩ rfl (by decide)
    ⟨by decide, by decide⟩ hall
  exact ⟨hrequired, hiff.1 hrequired⟩

/-! ## Monitors that show nothing -/

/-- Which required monitors share a pixel with the box of the selection: those that are not empty,
as long as the rectangle of the box is not empty either. -/
theorem sharesPixel_iff_of_mem_required (h : p ∈ c.required selected) :
    ∃ m box, c.get? p = some m ∧ BoundingBox.ofSet c selected = some box ∧
      (m.rect.SharesPixel box.rect ↔ m.rect.isEmpty = false ∧ box.rect.isEmpty = false) := by
  obtain ⟨m, box, hm, hbox, hover⟩ := exists_overlaps_of_mem_required h
  refine ⟨m, box, hm, hbox, ?_⟩
  exact Rect.sharesPixel_iff_of_reaches ((BoundingBox.overlaps_iff_reaches hbox).1 hover)

/-- The middle one of three monitors in a row shares a pixel with the box of the others. -/
theorem sharesPixel_of_mem_required_row :
    let c := Catalog.ofDisplays [⟨0, ⟨0, 0, 100, 100⟩, none⟩, ⟨1, ⟨100, -50, 100, 200⟩, none⟩,
      ⟨2, ⟨200, 0, 100, 100⟩, none⟩]
    1 ∈ c.required (.ofList [0, 2]) ∧
      (⟨100, -50, 100, 200⟩ : Rect).SharesPixel ⟨0, 0, 300, 100⟩ := by
  intro c
  have hrequired : 1 ∈ c.required (.ofList [0, 2]) := by decide
  obtain ⟨m, box, hm, hbox, hiff⟩ := sharesPixel_iff_of_mem_required hrequired
  obtain rfl : ⟨1, ⟨100, -50, 100, 200⟩, none⟩ = m := Option.some.inj hm
  have hrect : box.rect = ⟨0, 0, 300, 100⟩ := by
    obtain rfl := Option.some.inj hbox
    decide
  rw [hrect] at hiff
  exact ⟨hrequired, hiff.2 ⟨by decide, by decide⟩⟩

/-- A monitor `1` of no width stands in front of the monitor `0`. Selecting either one requires the
other: first what is required shows nothing, then the box has no interior. In both cases the monitor
and the box share no pixel. -/
theorem required_without_shared_pixel :
    let wide : Rect := ⟨0, 0, 100, 100⟩
    let thin : Rect := ⟨50, 20, 0, 60⟩
    let c := Catalog.ofDisplays [⟨0, wide, none⟩, ⟨1, thin, none⟩]
    (c.get? 0).map (·.rect) = some wide ∧ (c.get? 1).map (·.rect) = some thin ∧
      (c.required (.ofList [0]) = .ofList [1] ∧
        (BoundingBox.ofSet c (.ofList [0])).map (·.rect) = some wide ∧ ¬ thin.SharesPixel wide) ∧
      c.required (.ofList [1]) = .ofList [0] ∧
        (BoundingBox.ofSet c (.ofList [1])).map (·.rect) = some thin ∧ ¬ wide.SharesPixel thin := by
  intro wide thin c
  have hthin : ¬ thin.HasPixels := fun h => absurd h.across (by decide)
  refine ⟨by decide, by decide, ⟨by decide, by decide, ?_⟩, by decide, by decide, ?_⟩
  · rintro ⟨x, y, hcovers, -⟩
    exact hthin hcovers.hasPixels
  · rintro ⟨x, y, -, hcovers⟩
    exact hthin hcovers.hasPixels

end Multihead.Catalog
