import Multihead.Proofs.Arrangement.Primary
import Multihead.Proofs.Catalog.StableSort

/-!
# The extent of a layout

The extent of a catalog is measured from the origin of the virtual desktop, the bounds of its
displays from their own top-left corner. Both look for the same outermost edges, the one in the
catalog and the other in the displays as they were given, so the extent ends where the bounds end,
or at the origin where all displays end before it (`extent_eq_desktopBounds`). If none begins before
the origin, every monitor lies within the extent, and with them every frame buffer, whose sides are
sides of monitors (`Arrangement.frameBuffer_within`).
-/

namespace Multihead

variable {displays : List Display} {bounds : Rect}

namespace Edge

theorem IsOutermost.of_perm {others : List Display} {e : Edge} {z : Int32}
    (h : e.IsOutermost displays z) (hperm : others.Perm displays) : e.IsOutermost others z := by
  obtain ⟨d, hd, hside⟩ := h.attained
  exact ⟨⟨d, hperm.mem_iff.2 hd, hside⟩, fun d hd => h.outermost d (hperm.mem_iff.1 hd)⟩

/-! ## The rectangle from the origin -/

theorem outward_side_zero_le (right bottom : Int32) (e : Edge) :
    e.outward (e.side .zero) ≤ e.outward (e.side (.ofEdges 0 0 right bottom)) := by
  cases e with
  | top => exact Int.le_refl _
  | bottom => exact Rect.toInt_y_le_bottom (.ofEdges 0 0 right bottom)
  | left => exact Int.le_refl _
  | right => exact Rect.toInt_x_le_right (.ofEdges 0 0 right bottom)

/-- Displays that do not begin before the origin lie between it and the end of their bounds. -/
theorem outward_side_le (hbounds : desktopBounds displays = some bounds)
    (horigin : ∀ d ∈ displays, 0 ≤ d.rect.x ∧ 0 ≤ d.rect.y) {d : Display} (hd : d ∈ displays)
    (e : Edge) :
    e.outward (e.side d.rect) ≤
      e.outward (e.side (.ofEdges 0 0 bounds.right bounds.bottom)) := by
  have houtermost := (isOutermost_side hbounds e).outermost d hd
  obtain ⟨hx, hy⟩ := horigin d hd
  cases e with
  | top => exact Int.neg_le_neg (Int32.le_iff_toInt_le.1 hy)
  | bottom =>
    refine houtermost.trans ?_
    simp only [Edge.outward, Edge.side, Rect.toInt_bottom_ofEdges]
    exact Int.le_max_right ..
  | left => exact Int.neg_le_neg (Int32.le_iff_toInt_le.1 hx)
  | right =>
    refine houtermost.trans ?_
    simp only [Edge.outward, Edge.side, Rect.toInt_right_ofEdges]
    exact Int.le_max_right ..

end Edge

/-! ## The extent -/

namespace Catalog

theorem extent_eq_span {c : Catalog} (hperm : c.monitors.Perm displays)
    (hbounds : desktopBounds displays = some bounds) :
    c.extent = (Rect.span 0 bounds.right, Rect.span 0 bounds.bottom) := by
  have hfold (e : Edge) : e.outermost? c.monitors = some (e.side bounds) :=
    Edge.outermost?_eq_some_iff.2 ((Edge.isOutermost_side hbounds e).of_perm hperm)
  have hright : (c.monitors.map (·.rect.right)).max? = some bounds.right := hfold .right
  have hbottom : (c.monitors.map (·.rect.bottom)).max? = some bounds.bottom := hfold .bottom
  simp only [extent, hright, hbottom, Option.getD_some, Rect.getD_size?_toInt]

end Catalog

namespace Arrangement

theorem frameBuffer_within {a : Arrangement} (hperm : a.catalog.monitors.Perm displays)
    (hbounds : desktopBounds displays = some bounds)
    (horigin : ∀ d ∈ displays, 0 ≤ d.rect.x ∧ 0 ≤ d.rect.y) :
    a.frameBuffer.Within (.ofEdges 0 0 bounds.right bounds.bottom) := by
  refine Rect.within_of_outward fun e => ?_
  cases hbox : a.boundingBox with
  | none =>
    have hzero : a.frameBuffer = .zero := by simp [frameBuffer, hbox]
    rw [hzero]
    exact Edge.outward_side_zero_le bounds.right bounds.bottom e
  | some box =>
    -- each edge may be limited by another monitor, so they are compared edge by edge
    obtain ⟨p, -, d, hd, -, hside⟩ := exists_limit hbox e
    have hmem : d ∈ displays := hperm.mem_iff.1 (Catalog.mem_monitors_iff.2 ⟨p, hd⟩)
    rw [← hside]
    exact Edge.outward_side_le hbounds horigin hmem e

end Arrangement

namespace Catalog

/-- The extent of a layout with any displays ends, on both axes, where the bounds of the displays
end, and at the origin if they end before it. If no display begins before the origin, then the
rectangle from there to the extent holds every monitor, and the frame buffer after any calls. -/
theorem extent_eq_desktopBounds (displays : List Display) (hne : displays ≠ []) :
    ∃ built bounds, build displays = .ok built ∧ desktopBounds displays = some bounds ∧
      (built.value.extent.1.toNat : Int) = max 0 bounds.right.toInt ∧
      (built.value.extent.2.toNat : Int) = max 0 bounds.bottom.toInt ∧
      ((∀ d ∈ displays, 0 ≤ d.rect.x ∧ 0 ≤ d.rect.y) →
        let layout : Rect := ⟨0, 0, built.value.extent.1, built.value.extent.2⟩
        (∀ d ∈ built.value.monitors, d.rect.Within layout) ∧
        ∀ calls : List Arrangement.Call,
          let a := (Arrangement.ofDisplays displays).value.performAll calls
          a.frameBuffer.Within layout) := by
  obtain ⟨built, hbuild, hvalue⟩ := exists_build_of_ne_nil hne
  obtain ⟨bounds, hbounds⟩ := exists_desktopBounds hne
  have hperm : built.value.monitors.Perm displays := hvalue ▸ perm_ofDisplays displays
  have hextent := extent_eq_span hperm hbounds
  refine ⟨built, bounds, hbuild, hbounds, ?_, ?_, ?_⟩
  · rw [hextent, Rect.natCast_toNat_span, Int32.toInt_zero, Int.sub_zero]
  · rw [hextent, Rect.natCast_toNat_span, Int32.toInt_zero, Int.sub_zero]
  · intro horigin layout
    have hlayout : layout = .ofEdges 0 0 bounds.right bounds.bottom := by
      simp only [layout, hextent, Rect.ofEdges]
    rw [hlayout]
    refine ⟨fun d hd => ?_, fun calls => ?_⟩
    · exact Rect.within_of_outward (Edge.outward_side_le hbounds horigin (hperm.mem_iff.1 hd))
    · exact Arrangement.frameBuffer_within
        (Arrangement.perm_monitors_performAll displays calls) hbounds horigin

/-- Two displays behind the origin, the second of them cut off at the last column. The extent goes
there from the origin and so is wider than the bounds, which begin where the first display does. The
frame buffer of the second display is narrower than the display. -/
theorem extent_eq_desktopBounds_cut_off :
    let displays : List Display :=
      [⟨0, ⟨100, 50, 1920, 1080⟩, none⟩, ⟨1, ⟨2020, 0, 4294967295, 1200⟩, none⟩]
    let layout : Rect := ⟨0, 0, 2147483647, 1200⟩
    let a := (Arrangement.ofDisplays displays).value.performAll [.applyText "2"]
    displays ≠ [] ∧ (∀ d ∈ displays, 0 ≤ d.rect.x ∧ 0 ≤ d.rect.y) ∧
      desktopBounds displays = some ⟨100, 0, 2147483547, 1200⟩ ∧
      a.frameBuffer = ⟨2020, 0, 2147481627, 1200⟩ ∧
      ∃ built, build displays = .ok built ∧ built.value.extent = (2147483647, 1200) ∧
        (∀ d ∈ built.value.monitors, d.rect.Within layout) ∧ a.frameBuffer.Within layout := by
  intro displays layout a
  have hne : displays ≠ [] := by decide
  have horigin : ∀ d ∈ displays, 0 ≤ d.rect.x ∧ 0 ≤ d.rect.y := by decide
  have hbounds : desktopBounds displays = some ⟨100, 0, 2147483547, 1200⟩ := by decide
  obtain ⟨built, bounds, hbuild, hbounds', hwidth, hheight, hwithin⟩ :=
    extent_eq_desktopBounds displays hne
  obtain rfl := Option.some.inj (hbounds.symm.trans hbounds')
  have hextent : built.value.extent = (2147483647, 1200) := by
    refine Prod.ext (UInt32.toNat_inj.1 (Int.natCast_inj.1 ?_))
      (UInt32.toNat_inj.1 (Int.natCast_inj.1 ?_))
    · exact hwidth.trans (by decide)
    · exact hheight.trans (by decide)
  have hlayout := hwithin horigin
  simp only [hextent] at hlayout
  exact ⟨hne, horigin, hbounds, by decide, built, hbuild, hextent, hlayout.1, hlayout.2 _⟩

-- a layout that ends left of the origin and straddles the top of it
example : (ofDisplays [⟨0, ⟨-300, -20, 100, 80⟩, none⟩, ⟨1, ⟨-200, -90, 100, 80⟩, none⟩]).extent =
    (0, 60) := by decide

end Catalog

end Multihead
