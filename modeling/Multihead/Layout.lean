import Multihead.DisplaySource

/-!
# Static layouts

A layout lists displays in enumeration order, each with its geometry and an optional name. As a
display source it answers by position, and gives a geometry the name of the first display that has
it.
-/

namespace Multihead

structure Layout.Entry where
  rect : Rect
  name : Option String
deriving DecidableEq, Repr, Inhabited

structure Layout where
  displays : List Layout.Entry
deriving DecidableEq, Repr, Inhabited

namespace Layout

/-- The layout of unnamed displays with the given geometries. -/
def ofRects (rects : List Rect) : Layout := ⟨rects.map (⟨·, none⟩)⟩

/-- The name of the first display with the given geometry. -/
def nameOf (layout : Layout) (rect : Rect) : Option String :=
  (layout.displays.find? (·.rect = rect)).bind (·.name)

/-- The layout as something that reports displays. -/
def source (layout : Layout) : DisplaySource where
  count := layout.displays.length
  rectAt index := layout.displays[index]?.map (·.rect)
  nameOf := layout.nameOf

end Layout

end Multihead
