import Multihead.Proofs.BoundingBox
import Multihead.Proofs.Catalog.StableSort
import Multihead.Proofs.Rect
import Multihead.Proofs.Requirement

/-!
# Moving the whole desktop

Where the virtual desktop has its origin makes no difference. Let all displays be moved by one
offset, and let the edges of each be coordinates before and after. Then every side moves with its
rectangle (`Rect.toInt_side_moved`), so comparisons between sides come out the same: the displays
get the same order, the same monitors are required, and the limits of the box are the same
monitors at moved coordinates (`build_moved`).

An edge that is cut off at the last coordinate does not move, which is why the edges have to be
coordinates on both sides.
-/

namespace Multihead

/-- How far a side moves with its rectangle. -/
def Edge.shift (dx dy : Int) : Edge → Int
  | .top => dy
  | .bottom => dy
  | .left => dx
  | .right => dx

namespace Rect

/-- The rectangle with its corner moved by an offset. -/
def moved (dx dy : Int) (r : Rect) : Rect :=
  { r with x := .ofInt (r.x.toInt + dx), y := .ofInt (r.y.toInt + dy) }

/-- Whether all four edges of a rectangle are coordinates, and also after it is moved. -/
structure Movable (dx dy : Int) (r : Rect) : Prop where
  right : IsCoordinate (r.x.toInt + r.width.toNat)
  bottom : IsCoordinate (r.y.toInt + r.height.toNat)
  left_moved : IsCoordinate (r.x.toInt + dx)
  top_moved : IsCoordinate (r.y.toInt + dy)
  right_moved : IsCoordinate (r.x.toInt + dx + r.width.toNat)
  bottom_moved : IsCoordinate (r.y.toInt + dy + r.height.toNat)

instance (dx dy : Int) (r : Rect) : Decidable (r.Movable dx dy) :=
  decidable_of_iff
    (IsCoordinate (r.x.toInt + r.width.toNat) ∧ IsCoordinate (r.y.toInt + r.height.toNat) ∧
      IsCoordinate (r.x.toInt + dx) ∧ IsCoordinate (r.y.toInt + dy) ∧
      IsCoordinate (r.x.toInt + dx + r.width.toNat) ∧
      IsCoordinate (r.y.toInt + dy + r.height.toNat))
    ⟨fun ⟨hr, hb, hx, hy, hr', hb'⟩ => ⟨hr, hb, hx, hy, hr', hb'⟩,
      fun ⟨hr, hb, hx, hy, hr', hb'⟩ => ⟨hr, hb, hx, hy, hr', hb'⟩⟩

variable {dx dy : Int} {r s : Rect}

/-- Every side moves with its rectangle. -/
theorem toInt_side_moved (h : r.Movable dx dy) (e : Edge) :
    (e.side (r.moved dx dy)).toInt = (e.side r).toInt + e.shift dx dy := by
  have hx : (r.moved dx dy).x.toInt = r.x.toInt + dx := toInt_ofInt_of_isCoordinate h.left_moved
  have hy : (r.moved dx dy).y.toInt = r.y.toInt + dy := toInt_ofInt_of_isCoordinate h.top_moved
  have hwidth : (r.moved dx dy).width = r.width := rfl
  have hheight : (r.moved dx dy).height = r.height := rfl
  cases e with
  | top => exact hy
  | left => exact hx
  | bottom =>
    have hbefore := h.bottom.2
    have hafter := h.bottom_moved.2
    simp only [Edge.side, Edge.shift, toInt_bottom, hy, hheight]
    omega
  | right =>
    have hbefore := h.right.2
    have hafter := h.right_moved.2
    simp only [Edge.side, Edge.shift, toInt_right, hx, hwidth]
    omega

section Two

variable (hr : r.Movable dx dy) (hs : s.Movable dx dy)
include hr hs

theorem outward_moved_le_iff (e : Edge) :
    e.outward (e.side (r.moved dx dy)) ≤ e.outward (e.side (s.moved dx dy)) ↔
      e.outward (e.side r) ≤ e.outward (e.side s) := by
  have hside := toInt_side_moved hr e
  have hside' := toInt_side_moved hs e
  cases e <;> simp only [Edge.outward, Edge.shift] at * <;> omega

theorem side_moved_eq_iff (e : Edge) :
    e.side (r.moved dx dy) = e.side (s.moved dx dy) ↔ e.side r = e.side s := by
  rw [← Int32.toInt_inj, ← Int32.toInt_inj, toInt_side_moved hr, toInt_side_moved hs]
  omega

theorem reaches_moved_iff (e : Edge) :
    (r.moved dx dy).Reaches (s.moved dx dy) e ↔ r.Reaches s e := by
  have hside := toInt_side_moved hr e
  have hfacing := toInt_side_moved hs e.opposite
  simp only [reaches_iff]
  cases e <;> simp only [Edge.outward, Edge.opposite, Edge.shift] at * <;> omega

end Two

end Rect

namespace Display

/-- The display with its corner moved by an offset. -/
def moved (dx dy : Int) (d : Display) : Display := { d with rect := d.rect.moved dx dy }

theorem notAfter_moved_iff {dx dy : Int} {d e : Display} (hd : d.rect.Movable dx dy)
    (he : e.rect.Movable dx dy) : (d.moved dx dy).NotAfter (e.moved dx dy) ↔ d.NotAfter e := by
  have hleft := Rect.toInt_side_moved hd .left
  have htop := Rect.toInt_side_moved hd .top
  have hleft' := Rect.toInt_side_moved he .left
  have htop' := Rect.toInt_side_moved he .top
  simp only [notAfter_iff, moved, Edge.side, Edge.shift] at *
  omega

end Display

/-- Two boxes of which the second is the first at a distance: the same positions limit it, its
coordinates differ by the offset, and its rectangle has the same size. -/
structure BoundingBox.Moved (dx dy : Int) (box box' : BoundingBox) : Prop where
  position : ∀ e, (box'.limit e).position = (box.limit e).position
  coordinate : ∀ e,
    (box'.limit e).coordinate.toInt = (box.limit e).coordinate.toInt + e.shift dx dy
  width : box'.rect.width = box.rect.width
  height : box'.rect.height = box.rect.height

/-- The size of a box follows from its coordinates. -/
theorem BoundingBox.Moved.of_limits {dx dy : Int} {box box' : BoundingBox}
    (hposition : ∀ e, (box'.limit e).position = (box.limit e).position)
    (hcoordinate : ∀ e,
      (box'.limit e).coordinate.toInt = (box.limit e).coordinate.toInt + e.shift dx dy) :
    BoundingBox.Moved dx dy box box' := by
  obtain ⟨htop, hbottom, hleft, hright⟩ := Edge.forall_iff.1 hcoordinate
  simp only [limit, Edge.shift] at htop hbottom hleft hright
  refine ⟨hposition, hcoordinate, UInt32.toNat_inj.1 ?_, UInt32.toNat_inj.1 ?_⟩
  · rw [rect, rect, Rect.toNat_width_ofEdges, Rect.toNat_width_ofEdges, hleft, hright,
      Int.add_sub_add_right]
  · rw [rect, rect, Rect.toNat_height_ofEdges, Rect.toNat_height_ofEdges, htop, hbottom,
      Int.add_sub_add_right]

namespace Catalog

/-! ## The order -/

/-- Placing goes along with a change of the displays that keeps their order. -/
theorem place_map {f : Display → Display} {d : Display} {l : List Display}
    (h : ∀ e ∈ l, (f d).NotAfter (f e) ↔ d.NotAfter e) :
    place (f d) (l.map f) = (place d l).map f := by
  induction l with
  | nil => rfl
  | cons e l ih =>
    have hrest : place (f d) (l.map f) = (place d l).map f :=
      ih fun e' he' => h e' (List.mem_cons_of_mem _ he')
    simp only [List.map_cons, place, h e List.mem_cons_self]
    split
    · rfl
    · rw [hrest, List.map_cons]

theorem monitors_ofDisplays_map {f : Display → Display} {displays : List Display}
    (h : ∀ d ∈ displays, ∀ e ∈ displays, (f d).NotAfter (f e) ↔ d.NotAfter e) :
    (ofDisplays (displays.map f)).monitors = (ofDisplays displays).monitors.map f := by
  induction displays with
  | nil => rfl
  | cons d rest ih =>
    have hrest : (ofDisplays (rest.map f)).monitors = (ofDisplays rest).monitors.map f :=
      ih fun d' hd' e he => h d' (List.mem_cons_of_mem _ hd') e (List.mem_cons_of_mem _ he)
    change place (f d) (ofDisplays (rest.map f)).monitors = _
    rw [hrest]
    refine place_map fun e he => ?_
    exact h d List.mem_cons_self e
      (List.mem_cons_of_mem _ ((perm_ofDisplays rest).mem_iff.1 he))

/-- Two catalogs of which the second has the monitors of the first at a distance, and no edge is
lost. -/
structure Moved (dx dy : Int) (c c' : Catalog) : Prop where
  monitors : c'.monitors = c.monitors.map (·.moved dx dy)
  movable : ∀ d ∈ c.monitors, d.rect.Movable dx dy

theorem moved_ofDisplays {dx dy : Int} {displays : List Display}
    (h : ∀ d ∈ displays, d.rect.Movable dx dy) :
    Moved dx dy (ofDisplays displays) (ofDisplays (displays.map (·.moved dx dy))) where
  monitors := monitors_ofDisplays_map fun d hd e he =>
    Display.notAfter_moved_iff (h d hd) (h e he)
  movable d hd := h d ((perm_ofDisplays displays).mem_iff.1 hd)

namespace Moved

variable {dx dy : Int} {c c' : Catalog} (h : Moved dx dy c c')
include h

theorem stableIndices : c'.monitors.map (·.stableIndex) = c.monitors.map (·.stableIndex) := by
  rw [h.monitors, List.map_map]
  rfl

theorem get? (p : Nat) : c'.get? p = (c.get? p).map (·.moved dx dy) := by
  rw [Catalog.get?, Catalog.get?, h.monitors, List.getElem?_map]

theorem movable_of_get? {p : Nat} {d : Display} (hd : c.get? p = some d) :
    d.rect.Movable dx dy := h.movable d (mem_monitors_iff.2 ⟨p, hd⟩)

/-- What is said of some monitor at a position of the one catalog is said of the other. -/
theorem exists_get?_iff {p : Nat} {P : Display → Prop} :
    (∃ d, c'.get? p = some d ∧ P d) ↔ ∃ d, c.get? p = some d ∧ P (d.moved dx dy) := by
  rw [h.get?]
  cases c.get? p <;> simp

/-! ## Required monitors -/

theorem reachesInto_iff (selected : SortedSet Nat) {s : Rect} (hs : s.Movable dx dy) :
    c'.ReachesInto selected (s.moved dx dy) ↔ c.ReachesInto selected s := by
  refine forall_congr' fun e => exists_congr fun p => and_congr_right fun _ => ?_
  rw [h.exists_get?_iff]
  refine exists_congr fun d => and_congr_right fun hd => ?_
  exact Rect.reaches_moved_iff (h.movable_of_get? hd) hs e

theorem required_eq (selected : SortedSet Nat) : c'.required selected = c.required selected := by
  ext p
  rw [mem_required_iff, mem_required_iff, h.exists_get?_iff]
  refine and_congr_right fun _ => exists_congr fun d => and_congr_right fun hd => ?_
  exact h.reachesInto_iff selected (h.movable_of_get? hd)

/-! ## Boxes -/

theorem members_eq (positions : SortedSet Nat) :
    BoundingBox.members c' positions =
      (BoundingBox.members c positions).map fun m => (m.1, m.2.moved dx dy) := by
  unfold BoundingBox.members
  rw [List.map_filterMap]
  congr 1
  funext p
  rw [h.get?]
  cases c.get? p <;> rfl

theorem movable_of_mem_members {positions : SortedSet Nat} {m : Nat × Rect}
    (hm : m ∈ BoundingBox.members c positions) : m.2.Movable dx dy := by
  obtain ⟨-, d, hd, hrect⟩ := BoundingBox.mem_members.1 hm
  exact hrect ▸ h.movable_of_get? hd

theorem ofSet_eq_none_iff (positions : SortedSet Nat) :
    BoundingBox.ofSet c' positions = none ↔ BoundingBox.ofSet c positions = none := by
  rw [BoundingBox.ofSet_eq_none_iff, BoundingBox.ofSet_eq_none_iff]
  simp only [h.get?, Option.map_eq_none_iff]

section Boxes

variable {positions : SortedSet Nat} {box box' : BoundingBox}
  (hbox : BoundingBox.ofSet c positions = some box)
  (hbox' : BoundingBox.ofSet c' positions = some box')
include hbox hbox'

/-- The monitor at a limit of the box is, when moved, at that limit of the moved box. -/
theorem limit_eq (e : Edge) : ∃ m ∈ BoundingBox.members c positions,
    box.limit e = ⟨e.side m.2, m.1⟩ ∧ box'.limit e = ⟨e.side (m.2.moved dx dy), m.1⟩ := by
  have hlimit := BoundingBox.isLimit_of_ofSet hbox e
  have hlimit' := BoundingBox.isLimit_of_ofSet hbox' e
  obtain ⟨m, hm, hattained⟩ := hlimit.attained
  refine ⟨m, hm, hattained, hlimit'.unique ?_⟩
  rw [hattained] at hlimit
  rw [h.members_eq]
  refine ⟨⟨_, List.mem_map_of_mem hm, rfl⟩, ?_, ?_⟩
  · intro n hn
    obtain ⟨k, hk, rfl⟩ := List.mem_map.1 hn
    have hle := hlimit.outermost k hk
    exact (Rect.outward_moved_le_iff (h.movable_of_mem_members hk)
      (h.movable_of_mem_members hm) e).2 hle
  · intro n hn hside
    obtain ⟨k, hk, rfl⟩ := List.mem_map.1 hn
    have hside' : e.side k.2 = e.side m.2 :=
      (Rect.side_moved_eq_iff (h.movable_of_mem_members hk) (h.movable_of_mem_members hm) e).1 hside
    exact hlimit.lowest k hk hside'

theorem boundingBox : BoundingBox.Moved dx dy box box' := by
  refine .of_limits (fun e => ?_) (fun e => ?_)
  · obtain ⟨m, -, hattained, hattained'⟩ := h.limit_eq hbox hbox' e
    rw [hattained, hattained']
  · obtain ⟨m, hm, hattained, hattained'⟩ := h.limit_eq hbox hbox' e
    rw [hattained, hattained']
    exact Rect.toInt_side_moved (h.movable_of_mem_members hm) e

end Boxes

theorem ofSet_cases (positions : SortedSet Nat) :
    (BoundingBox.ofSet c positions = none ∧ BoundingBox.ofSet c' positions = none) ∨
      ∃ box box', BoundingBox.ofSet c positions = some box ∧
        BoundingBox.ofSet c' positions = some box' ∧ BoundingBox.Moved dx dy box box' := by
  have hnone := h.ofSet_eq_none_iff positions
  cases hbox : BoundingBox.ofSet c positions with
  | none => exact .inl ⟨rfl, hnone.2 hbox⟩
  | some box =>
    cases hbox' : BoundingBox.ofSet c' positions with
    | none =>
      rw [hbox] at hnone
      cases hnone.1 hbox'
    | some box' => exact .inr ⟨box, box', rfl, rfl, h.boundingBox hbox hbox'⟩

end Moved

/-- Moving the whole desktop by an offset under which every edge stays a coordinate. Both lists of
displays build a catalog unless they are empty. The two catalogs have the same platform indices in
the same order, and every selection requires the same positions in both. The selected and the
required monitors have a box in both or in neither; at each edge it has the same limiting position,
its coordinates differ by exactly the offset, and its rectangle has the same size. -/
theorem build_moved (dx dy : Int) (displays : List Display)
    (hmovable : ∀ d ∈ displays, d.rect.Movable dx dy) :
    (displays = [] → build displays = .error .emptyTopology ∧
      build (displays.map (·.moved dx dy)) = .error .emptyTopology) ∧
    (displays ≠ [] → ∃ c c' records, build displays = .ok ⟨c, records⟩ ∧
      build (displays.map (·.moved dx dy)) = .ok ⟨c', records⟩ ∧
      c'.monitors.map (·.stableIndex) = c.monitors.map (·.stableIndex) ∧
      ∀ selected : SortedSet Nat, c'.required selected = c.required selected ∧
        let active := selected ∪ c.required selected
        (BoundingBox.ofSet c active = none ∧ BoundingBox.ofSet c' active = none) ∨
          ∃ box box', BoundingBox.ofSet c active = some box ∧
            BoundingBox.ofSet c' active = some box' ∧ BoundingBox.Moved dx dy box box') := by
  constructor
  · rintro rfl
    exact ⟨rfl, rfl⟩
  · intro hne
    have hmoved := moved_ofDisplays hmovable
    have hbuild : build displays = .ok ⟨ofDisplays displays, _⟩ := if_neg (by simpa using hne)
    have hbuild' : build (displays.map (·.moved dx dy)) =
        .ok ⟨ofDisplays (displays.map (·.moved dx dy)), _⟩ := if_neg (by simpa using hne)
    rw [List.length_map] at hbuild'
    refine ⟨_, _, _, hbuild, hbuild', hmoved.stableIndices, fun selected => ⟨?_, ?_⟩⟩
    · exact hmoved.required_eq selected
    · exact hmoved.ofSet_cases _

/-- A row of three moved to the first coordinate and below the origin: the middle one, which is
required between the other two, stays so. -/
theorem build_moved_row_to_first_coordinate :
    let row : List Display := [⟨0, ⟨200, 0, 100, 100⟩, none⟩,
      ⟨1, ⟨0, 0, 100, 100⟩, none⟩, ⟨2, ⟨100, -50, 100, 200⟩, none⟩]
    (∀ d ∈ row, d.rect.Movable (-2147483648) 2147483000) ∧
      ∃ c c' records, build row = .ok ⟨c, records⟩ ∧
        build (row.map (·.moved (-2147483648) 2147483000)) = .ok ⟨c', records⟩ ∧
        c'.required (.ofList [0, 2]) = .ofList [1] ∧
        ∃ box box', BoundingBox.ofSet c (.ofList [0, 1, 2]) = some box ∧
          BoundingBox.ofSet c' (.ofList [0, 1, 2]) = some box' ∧
          BoundingBox.Moved (-2147483648) 2147483000 box box' := by
  intro row
  have hmovable : ∀ d ∈ row, d.rect.Movable (-2147483648) 2147483000 := by decide
  obtain ⟨-, hbuild⟩ := build_moved (-2147483648) 2147483000 row hmovable
  obtain ⟨c, c', records, hc, hc', -, hselected⟩ := hbuild (by decide)
  obtain ⟨hrequired, hbox⟩ := hselected (.ofList [0, 2])
  have hsame : c = ofDisplays row := by
    cases hc
    rfl
  have hmiddle : c.required (.ofList [0, 2]) = .ofList [1] := by
    rw [hsame]
    decide
  have hactive : SortedSet.ofList [0, 2] ∪ c.required (.ofList [0, 2]) = .ofList [0, 1, 2] := by
    rw [hmiddle]
    decide
  simp only [hactive] at hbox
  refine ⟨hmovable, c, c', records, hc, hc', hrequired.trans hmiddle, ?_⟩
  obtain ⟨hnone, -⟩ | hboth := hbox
  · rw [hsame] at hnone
    exact absurd hnone (by decide)
  · exact hboth

-- cut off at the last coordinate, both end at one edge; moved away from there, they do not
example :
    let pair : List Display := [⟨0, ⟨2147483500, 0, 150, 100⟩, none⟩,
      ⟨1, ⟨2147483600, 0, 150, 100⟩, none⟩]
    let limit (displays : List Display) : Option Nat :=
      (BoundingBox.ofSet (ofDisplays displays) (.ofList [0, 1])).map (·.right.position)
    limit pair = some 0 ∧ limit (pair.map (·.moved (-1000) 0)) = some 1 := by decide

end Catalog

end Multihead
