/-!
# Rectangles of the virtual desktop

Coordinates are signed and sizes unsigned, both of 32 bits. Edges and distances are computed in 64
bits, where nothing is lost (`toInt_add_extent`, `toInt_sub_coordinate`), and get back to 32 bits by
a conversion that fails out of range (`coordinate?`, `size?`). The right and the bottom edge are
exclusive; where origin plus size leaves the range of coordinates, the edge is the largest
coordinate (`toInt_right`, `toInt_bottom`). A rectangle given by four edges keeps its left and top
edge, and inverted edges give it no extent (`toNat_width_ofEdges`, `toNat_height_ofEdges`).
-/

namespace Multihead

/-- The largest coordinate. -/
def maxCoordinate : Int := 2147483647

/-- The largest size. -/
def maxSize : UInt32 := 4294967295

/-- An integer as a coordinate, if it is in range. -/
def coordinate? (z : Int) : Option Int32 :=
  if Int32.minValue.toInt ≤ z ∧ z ≤ maxCoordinate then some (Int32.ofInt z) else none

/-- An integer as a size, if it is in range. -/
def size? (z : Int) : Option UInt32 :=
  if 0 ≤ z ∧ z ≤ maxSize.toNat then some (UInt32.ofNat z.toNat) else none

/-- An axis-aligned rectangle, given by its top-left corner and its size. -/
structure Rect where
  x : Int32
  y : Int32
  width : UInt32
  height : UInt32
deriving DecidableEq, Repr, Inhabited

namespace Rect

/-- The coordinate `extent` beyond `origin`, or the largest one where that is out of range. -/
def farEdge (origin : Int32) (extent : UInt32) : Int32 :=
  let edge : Int64 := origin.toInt64 + Int64.ofNat extent.toNat
  (coordinate? edge.toInt).getD Int32.maxValue

/-- The distance from one coordinate up to another, zero where there is none. -/
def span (first last : Int32) : UInt32 :=
  let distance : Int64 := last.toInt64 - first.toInt64
  (size? (max distance 0).toInt).getD maxSize

def right (r : Rect) : Int32 := farEdge r.x r.width

def bottom (r : Rect) : Int32 := farEdge r.y r.height

def ofEdges (left top right bottom : Int32) : Rect :=
  ⟨left, top, span left right, span top bottom⟩

/-- The rectangle at the origin without extent. -/
def zero : Rect := ⟨0, 0, 0, 0⟩

/-- Whether the rectangle has no extent in one of the two directions. -/
def isEmpty (r : Rect) : Bool := r.width == 0 || r.height == 0

/-- The geometry notation `WxH+X+Y`; a negative coordinate keeps the plus sign before its own. -/
def text (r : Rect) : String :=
  toString r.width.toNat ++ "x" ++ toString r.height.toNat ++
    "+" ++ toString r.x.toInt ++ "+" ++ toString r.y.toInt

/-- What a user reads about a display of this geometry: its name, if it has one that is not empty,
before the geometry. -/
def describe (r : Rect) : Option String → String
  | some name => if name = "" then r.text else name ++ " (" ++ r.text ++ ")"
  | none => r.text

/-! ## Edges and distances as integers -/

/-- A size fits beside a coordinate in 64 bits. -/
theorem toInt_add_extent (origin : Int32) (extent : UInt32) :
    (origin.toInt64 + Int64.ofNat extent.toNat).toInt = origin.toInt + extent.toNat := by
  have := origin.le_toInt
  have := origin.toInt_lt
  have := extent.toNat_lt
  have hextent : (Int64.ofNat extent.toNat).toInt = extent.toNat :=
    Int64.toInt_ofNat_of_lt (by omega)
  rw [Int64.toInt_add, Int32.toInt_toInt64, hextent]
  exact Int.bmod_eq_of_le (by omega) (by omega)

/-- The distance of two coordinates fits in 64 bits. -/
theorem toInt_sub_coordinate (first last : Int32) :
    (last.toInt64 - first.toInt64).toInt = last.toInt - first.toInt := by
  have := first.le_toInt
  have := first.toInt_lt
  have := last.le_toInt
  have := last.toInt_lt
  rw [Int64.toInt_sub, Int32.toInt_toInt64, Int32.toInt_toInt64]
  exact Int.bmod_eq_of_le (by omega) (by omega)

/-- What is no coordinate because it is too large counts as the largest one. -/
theorem toInt_getD_coordinate? {z : Int} (h : Int32.minValue.toInt ≤ z) :
    ((coordinate? z).getD Int32.maxValue).toInt = min z maxCoordinate := by
  unfold coordinate?
  split
  · next hz =>
    simp only [maxCoordinate] at hz ⊢
    rw [Option.getD_some, Int32.toInt_ofInt_of_le h (by omega), Int.min_eq_left hz.2]
  · next hz =>
    have hlarge : maxCoordinate ≤ z := by omega
    rw [Option.getD_none, Int.min_eq_right hlarge]
    rfl

/-- A size that is in range is what it was, whatever stands for the others. -/
theorem toNat_getD_size? {z : Int} (other : UInt32) (h : 0 ≤ z) (hz : z ≤ maxSize.toNat) :
    ((size? z).getD other).toNat = z.toNat := by
  rw [size?, if_pos ⟨h, hz⟩, Option.getD_some]
  refine UInt32.toNat_ofNat_of_lt' ?_
  simp only [maxSize, UInt32.size, UInt32.reduceToNat] at hz ⊢
  omega

theorem toInt_farEdge (origin : Int32) (extent : UInt32) :
    (farEdge origin extent).toInt = min (origin.toInt + extent.toNat) maxCoordinate := by
  have hlow : Int32.minValue.toInt ≤ origin.toInt := origin.minValue_le_toInt
  rw [farEdge, toInt_add_extent, toInt_getD_coordinate? (by omega)]

theorem toInt_max (a b : Int64) : (max a b).toInt = max a.toInt b.toInt := by
  have hmax : max a b = if a ≤ b then b else a := rfl
  rw [hmax, Int.max_def, apply_ite Int64.toInt]
  simp only [Int64.le_iff_toInt_le]

theorem toNat_span (first last : Int32) :
    (span first last).toNat = (last.toInt - first.toInt).toNat := by
  have := first.le_toInt
  have := last.toInt_lt
  rw [span, toInt_max, toInt_sub_coordinate, Int64.toInt_zero, toNat_getD_size? _ (by omega) ?_]
  · omega
  · simp only [maxSize, UInt32.reduceToNat]
    omega

@[simp] theorem toInt_right (r : Rect) :
    r.right.toInt = min (r.x.toInt + r.width.toNat) maxCoordinate := toInt_farEdge ..

@[simp] theorem toInt_bottom (r : Rect) :
    r.bottom.toInt = min (r.y.toInt + r.height.toNat) maxCoordinate := toInt_farEdge ..

@[simp] theorem toNat_width_ofEdges (left top right bottom : Int32) :
    (ofEdges left top right bottom).width.toNat = (right.toInt - left.toInt).toNat :=
  toNat_span ..

@[simp] theorem toNat_height_ofEdges (left top right bottom : Int32) :
    (ofEdges left top right bottom).height.toNat = (bottom.toInt - top.toInt).toNat :=
  toNat_span ..

end Rect

end Multihead
