import Multihead.Rect

/-!
# Displays

A display as the platform reports it, and the smallest rectangle that holds a list of displays.
-/

namespace Multihead

/-- A display: its index in the platform's enumeration, its geometry and, where the platform knows
one, the name of its output. -/
structure Display where
  stableIndex : UInt32
  rect : Rect
  name : Option String
deriving DecidableEq, Repr, Inhabited

/-- What a user reads about the display. -/
def Display.description (d : Display) : String := d.rect.describe d.name

/-- The rectangle between the outermost edges of the displays, if there is any display. -/
def desktopBounds (displays : List Display) : Option Rect := do
  let left ← (displays.map (·.rect.x)).min?
  let top ← (displays.map (·.rect.y)).min?
  let right ← (displays.map (·.rect.right)).max?
  let bottom ← (displays.map (·.rect.bottom)).max?
  return Rect.ofEdges left top right bottom

end Multihead
