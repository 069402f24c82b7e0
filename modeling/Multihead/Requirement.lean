import Multihead.BoundingBox

/-!
# Required monitors

A frame buffer across several monitors is a rectangle. A monitor that was not selected but overlaps
the interior of the selection's bounding box has to be captured as well, and is required.
-/

namespace Multihead.Catalog

/-- Whether the monitor at a position overlaps the interior of a box. -/
def overlaps (c : Catalog) (box : BoundingBox) (position : Nat) : Bool :=
  (c.get? position).any (box.overlaps ·.rect)

/-- The positions outside of a selection whose monitors overlap the interior of its box. -/
def required (c : Catalog) (selected : SortedSet Nat) : SortedSet Nat :=
  match BoundingBox.ofSet c selected with
  | none => ∅
  | some box => (SortedSet.range c.size).filter fun position =>
      position ∉ selected && c.overlaps box position

/-- Whether a selection requires the monitor at a position, which has to name one. -/
def isRequired (c : Catalog) (selected : SortedSet Nat) (position : Nat) :
    Except ArrangementError Bool := do
  c.check position
  return position ∈ c.required selected

/-- Whether a selection requires any other monitor. -/
def hasRequired (c : Catalog) (selected : SortedSet Nat) : Bool := !(c.required selected).isEmpty

end Multihead.Catalog
