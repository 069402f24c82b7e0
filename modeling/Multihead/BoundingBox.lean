import Multihead.Catalog
import Multihead.SortedSet

/-!
# The bounding box of a set of monitors

The box is seeded from the lowest position of the set and widened by the others in ascending order.
Each edge remembers the position that pushed it furthest; only a monitor that lies strictly beyond
an edge takes it over, so of several monitors that attain an edge the lowest position keeps it.
-/

namespace Multihead

inductive Edge
  | top
  | bottom
  | left
  | right
deriving DecidableEq, Repr

/-- The four sides, in the order in which they are reported. -/
def Edge.all : List Edge := [.top, .bottom, .left, .right]

def Edge.name : Edge → String
  | .top => "top"
  | .bottom => "bottom"
  | .left => "left"
  | .right => "right"

/-- An edge of a box: its coordinate, and the position of the monitor that limits it. -/
structure Limit where
  coordinate : Int32
  position : Nat
deriving DecidableEq, Repr, Inhabited

/-- The smallest rectangle around a set of monitors, with the limiting monitor of each edge. The
bottom and the right coordinate are exclusive. -/
structure BoundingBox where
  top : Limit
  bottom : Limit
  left : Limit
  right : Limit
deriving DecidableEq, Repr, Inhabited

namespace BoundingBox

def seed (position : Nat) (r : Rect) : BoundingBox where
  top := ⟨r.y, position⟩
  bottom := ⟨r.bottom, position⟩
  left := ⟨r.x, position⟩
  right := ⟨r.right, position⟩

/-- The box widened by one more monitor. -/
def extend (box : BoundingBox) (position : Nat) (r : Rect) : BoundingBox where
  top := if r.y < box.top.coordinate then ⟨r.y, position⟩ else box.top
  bottom := if r.bottom > box.bottom.coordinate then ⟨r.bottom, position⟩ else box.bottom
  left := if r.x < box.left.coordinate then ⟨r.x, position⟩ else box.left
  right := if r.right > box.right.coordinate then ⟨r.right, position⟩ else box.right

def rect (box : BoundingBox) : Rect :=
  .ofEdges box.left.coordinate box.top.coordinate box.right.coordinate box.bottom.coordinate

def limit (box : BoundingBox) : Edge → Limit
  | .top => box.top
  | .bottom => box.bottom
  | .left => box.left
  | .right => box.right

/-- Whether each edge of `r` lies strictly inside of the opposite edge of the box. A rectangle that
only touches the box from outside does not overlap it. -/
def overlaps (box : BoundingBox) (r : Rect) : Bool :=
  r.x < box.right.coordinate && r.right > box.left.coordinate &&
    r.y < box.bottom.coordinate && r.bottom > box.top.coordinate

/-- The monitors at the positions of a set, ascending. Positions beyond the catalog name none. -/
def members (c : Catalog) (positions : SortedSet Nat) : List (Nat × Rect) :=
  positions.toList.filterMap fun position => (c.get? position).map (position, ·.rect)

/-- The box around the monitors at the positions of a set, if there is any such monitor. -/
def ofSet (c : Catalog) (positions : SortedSet Nat) : Option BoundingBox :=
  match members c positions with
  | [] => none
  | (position, r) :: rest =>
    some (rest.foldl (fun box member => box.extend member.1 member.2) (seed position r))

/-- The box around the monitors at some positions, in any order and with repetitions. -/
def ofPositions (c : Catalog) (positions : List Nat) : Option BoundingBox :=
  ofSet c (.ofList positions)

end BoundingBox

end Multihead
