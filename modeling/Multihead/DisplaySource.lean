import Multihead.Display
import Multihead.Log.Record

/-!
# Display sources

Whatever reports displays does so by index: how many there are, the geometry of each, and the name
of the output that has a given geometry. Enumerating a source takes a snapshot of every display it
can resolve, in the order of their indices, and warns about the others.
-/

namespace Multihead

structure DisplaySource where
  /-- How many displays there are said to be. -/
  count : Nat
  /-- The geometry of the display with the given index. -/
  rectAt : Nat → Option Rect
  /-- The name of the display with exactly the given geometry. -/
  nameOf : Rect → Option String := fun _ => none

namespace DisplaySource

/-- The warning about an index that does not resolve. -/
def vanished (index : Nat) : Log.Record :=
  ⟨.warn, .displaySource, "Display vanished during enumeration", [("index", .number index)]⟩

/-- The display with the given index. An index beyond 32 bits is passed over. -/
def displayAt (source : DisplaySource) (index : Nat) : Option Display := do
  let rect ← source.rectAt index
  if index < UInt32.size then some ⟨UInt32.ofNat index, rect, source.nameOf rect⟩ else none

/-- A snapshot of every display that resolves, in the order of the indices. -/
def enumerate (source : DisplaySource) : Logged (List Display) where
  value := (List.range source.count).filterMap source.displayAt
  records := ((List.range source.count).filter (source.rectAt · |>.isNone)).map vanished

end DisplaySource

end Multihead
