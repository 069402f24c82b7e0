import Multihead.Rect

/-!
# Rectangles at the limits of their words

Coordinates are signed words of 32 bits and sizes are unsigned ones. A coordinate and a size add up
to a coordinate or to more than the largest one, never to less than the smallest one
(`isCoordinate_add_iff`), and the distance from one coordinate up to another always is a size. So a
far edge is lost only where it is cut off at the largest coordinate, and a rectangle is given back
by its four edges exactly if neither far edge is (`edges_and_sizes_exact`).
-/

namespace Multihead.Rect

/-! ## Coordinates -/

/-- Whether an integer is a coordinate. -/
def IsCoordinate (z : Int) : Prop := Int32.minValue.toInt ≤ z ∧ z ≤ maxCoordinate

instance (z : Int) : Decidable (IsCoordinate z) := by
  unfold IsCoordinate; infer_instance

theorem toInt_ofInt_of_isCoordinate {z : Int} (h : IsCoordinate z) : (Int32.ofInt z).toInt = z := by
  obtain ⟨hlow, hhigh⟩ := h
  refine Int32.toInt_ofInt_of_le hlow ?_
  simp only [maxCoordinate] at hhigh
  omega

theorem toInt_le_maxCoordinate (z : Int32) : z.toInt ≤ maxCoordinate := by
  have := z.toInt_lt
  unfold maxCoordinate
  omega

/-- A size added to a coordinate can only leave the coordinates upwards. -/
theorem isCoordinate_add_iff (origin : Int32) (extent : UInt32) :
    IsCoordinate (origin.toInt + extent.toNat) ↔
      origin.toInt + extent.toNat ≤ maxCoordinate := by
  have hlow : Int32.minValue.toInt ≤ origin.toInt := origin.minValue_le_toInt
  unfold IsCoordinate
  omega

/-! ## Far edges and spans -/

theorem toInt_le_farEdge (origin : Int32) (extent : UInt32) :
    origin.toInt ≤ (farEdge origin extent).toInt := by
  have := toInt_le_maxCoordinate origin
  rw [toInt_farEdge]
  omega

/-- The far edge at the distance of a coordinate is that coordinate, unless it lies before the
origin. -/
theorem toInt_farEdge_span (first last : Int32) :
    (farEdge first (span first last)).toInt = max first.toInt last.toInt := by
  have := toInt_le_maxCoordinate first
  have := toInt_le_maxCoordinate last
  rw [toInt_farEdge, toNat_span]
  omega

theorem natCast_toNat_span (first last : Int32) :
    ((span first last).toNat : Int) = max 0 (last.toInt - first.toInt) := by
  rw [toNat_span]
  omega

/-- A coordinate as a size is its distance from the origin, if it is none that counts as zero. -/
theorem getD_size?_toInt (last : Int32) : (size? last.toInt).getD 0 = span 0 last := by
  have := last.toInt_lt
  rw [← UInt32.toNat_inj, toNat_span, Int32.toInt_zero, Int.sub_zero]
  by_cases hneg : last.toInt < 0
  · rw [size?, if_neg (by omega), Int.toNat_of_nonpos (by omega)]
    rfl
  · refine toNat_getD_size? 0 (by omega) ?_
    simp only [maxSize, UInt32.reduceToNat]
    omega

/-- The distance to the far edge is the extent, unless the edge is cut off. -/
theorem span_farEdge_eq_iff (origin : Int32) (extent : UInt32) :
    span origin (farEdge origin extent) = extent ↔
      IsCoordinate (origin.toInt + extent.toNat) := by
  rw [isCoordinate_add_iff, ← UInt32.toNat_inj, toNat_span, toInt_farEdge]
  have := toInt_le_maxCoordinate origin
  omega

/-- What is cut off once stays where it is. -/
theorem farEdge_span_farEdge (origin : Int32) (extent : UInt32) :
    farEdge origin (span origin (farEdge origin extent)) = farEdge origin extent := by
  rw [← Int32.toInt_inj, toInt_farEdge_span]
  exact Int.max_eq_right (toInt_le_farEdge origin extent)

/-! ## Rectangles and their edges -/

theorem ofEdges_eq_iff {left top right bottom : Int32} {r : Rect} :
    ofEdges left top right bottom = r ↔
      (left = r.x ∧ top = r.y) ∧ span left right = r.width ∧ span top bottom = r.height := by
  cases r
  rw [ofEdges, mk.injEq, and_assoc]

theorem toInt_x_le_right (r : Rect) : r.x.toInt ≤ r.right.toInt := toInt_le_farEdge r.x r.width

theorem toInt_y_le_bottom (r : Rect) : r.y.toInt ≤ r.bottom.toInt := toInt_le_farEdge r.y r.height

theorem toInt_right_ofEdges (left top right bottom : Int32) :
    (ofEdges left top right bottom).right.toInt = max left.toInt right.toInt := by
  simp only [Rect.right, ofEdges, toInt_farEdge_span]

theorem toInt_bottom_ofEdges (left top right bottom : Int32) :
    (ofEdges left top right bottom).bottom.toInt = max top.toInt bottom.toInt := by
  simp only [Rect.bottom, ofEdges, toInt_farEdge_span]

theorem right_ofEdges_right (r : Rect) (top bottom : Int32) :
    (ofEdges r.x top r.right bottom).right = r.right := by
  simp only [right, ofEdges, farEdge_span_farEdge]

theorem bottom_ofEdges_bottom (r : Rect) (left right : Int32) :
    (ofEdges left r.y right r.bottom).bottom = r.bottom := by
  simp only [bottom, ofEdges, farEdge_span_farEdge]

/-- The arithmetic of rectangles in unbounded integers. A far edge is the origin plus the size, cut
off at the largest coordinate, and never lies before the origin. A rectangle of four edges begins at
the left and the top one, its sizes are the exact distances to the others or zero where these lie
before, and its far edges are the later ones. A rectangle is that of its own edges exactly if
neither far edge is cut off; its far edges are those in any case. -/
theorem edges_and_sizes_exact (r : Rect) (left top right bottom : Int32) :
    (r.right.toInt = min (r.x.toInt + r.width.toNat) maxCoordinate ∧
      r.bottom.toInt = min (r.y.toInt + r.height.toNat) maxCoordinate ∧
      r.x ≤ r.right ∧ r.y ≤ r.bottom) ∧
    (let s := ofEdges left top right bottom
     s.x = left ∧ s.y = top ∧
       (s.width.toNat : Int) = max 0 (right.toInt - left.toInt) ∧
       (s.height.toNat : Int) = max 0 (bottom.toInt - top.toInt) ∧
       s.right.toInt = max left.toInt right.toInt ∧
       s.bottom.toInt = max top.toInt bottom.toInt) ∧
    (let s := ofEdges r.x r.y r.right r.bottom
     (s = r ↔ IsCoordinate (r.x.toInt + r.width.toNat) ∧
         IsCoordinate (r.y.toInt + r.height.toNat)) ∧
       s.right = r.right ∧ s.bottom = r.bottom) := by
  refine ⟨⟨toInt_right r, toInt_bottom r, ?_, ?_⟩, ⟨rfl, rfl, ?_, ?_, ?_, ?_⟩, ?_, ?_, ?_⟩
  · exact Int32.le_iff_toInt_le.2 (toInt_x_le_right r)
  · exact Int32.le_iff_toInt_le.2 (toInt_y_le_bottom r)
  · exact natCast_toNat_span left right
  · exact natCast_toNat_span top bottom
  · exact toInt_right_ofEdges left top right bottom
  · exact toInt_bottom_ofEdges left top right bottom
  · rw [ofEdges_eq_iff, and_iff_right ⟨rfl, rfl⟩]
    exact and_congr (span_farEdge_eq_iff r.x r.width) (span_farEdge_eq_iff r.y r.height)
  · exact right_ofEdges_right r r.y r.bottom
  · exact bottom_ofEdges_bottom r r.x r.right

-- the distance between the outermost coordinates takes all 32 bits of a size, and a size of more
-- than 31 bits is cut off
example :
    (ofEdges (-2147483648) 10 2147483647 0 = ⟨-2147483648, 10, 4294967295, 0⟩) ∧
      (Rect.mk 0 0 3000000000 100).right = 2147483647 ∧
      ofEdges 0 0 2147483647 100 = ⟨0, 0, 2147483647, 100⟩ := by decide

end Multihead.Rect
