import Mathlib.Order.Bounds.Basic
import Multihead.Proofs.Catalog
import Multihead.Proofs.Limits

/-!
# The box of a sequence of positions

A box is found in one scan that keeps track of all four edges. What it finds can be said without
the scan (`IsBoxOf`): each edge is the least or the greatest coordinate there, among the monitors
that the sequence names, and the lowest position with that coordinate limits it. There is exactly
one such box as soon as a position names a monitor (`ofPositions_eq_some_iff`), so neither the order
of the sequence nor its repetitions matter, nor the positions beyond the catalog.
-/

namespace Multihead.BoundingBox

/-- The coordinates that a side has among the monitors of a sequence of positions. -/
def coordinates (c : Catalog) (positions : List Nat) (side : Rect → Int32) : Set Int32 :=
  {z | ∃ p ∈ positions, ∃ d, c.get? p = some d ∧ side d.rect = z}

/-- The positions of a sequence whose monitors have a side at the given coordinate. -/
def attaining (c : Catalog) (positions : List Nat) (side : Rect → Int32) (z : Int32) : Set Nat :=
  {p | p ∈ positions ∧ ∃ d, c.get? p = some d ∧ side d.rect = z}

/-- The box that belongs to a sequence of positions. -/
structure IsBoxOf (c : Catalog) (positions : List Nat) (box : BoundingBox) : Prop where
  top : IsLeast (coordinates c positions Rect.y) box.top.coordinate
  bottom : IsGreatest (coordinates c positions Rect.bottom) box.bottom.coordinate
  left : IsLeast (coordinates c positions Rect.x) box.left.coordinate
  right : IsGreatest (coordinates c positions Rect.right) box.right.coordinate
  position : ∀ e : Edge,
    IsLeast (attaining c positions e.side (box.limit e).coordinate) (box.limit e).position

variable {c : Catalog} {positions others : List Nat} {box : BoundingBox} {e : Edge}

/-! ## Limits as extremes -/

theorem mem_attaining {side : Rect → Int32} {z : Int32} {p : Nat} :
    p ∈ attaining c positions side z ↔
      ∃ m ∈ members c (.ofList positions), m.1 = p ∧ side m.2 = z := by
  constructor
  · rintro ⟨hp, d, hd, hz⟩
    exact ⟨(p, d.rect), mem_members.2 ⟨SortedSet.mem_ofList.2 hp, d, hd, rfl⟩, rfl, hz⟩
  · rintro ⟨m, hm, rfl, hz⟩
    obtain ⟨hp, d, hd, hrect⟩ := mem_members.1 hm
    exact ⟨SortedSet.mem_ofList.1 hp, d, hd, hrect ▸ hz⟩

theorem mem_coordinates {side : Rect → Int32} {z : Int32} :
    z ∈ coordinates c positions side ↔ ∃ m ∈ members c (.ofList positions), side m.2 = z := by
  constructor
  · rintro ⟨p, hp⟩
    obtain ⟨m, hm, -, hz⟩ := mem_attaining.1 hp
    exact ⟨m, hm, hz⟩
  · rintro ⟨m, hm, hz⟩
    exact ⟨m.1, mem_attaining.2 ⟨m, hm, rfl, hz⟩⟩

/-- The limit of an edge has the outermost coordinate, at the lowest position. -/
theorem isLimit_iff {l : Limit} :
    IsLimit e (members c (.ofList positions)) l ↔
      (l.coordinate ∈ coordinates c positions e.side ∧
        ∀ z ∈ coordinates c positions e.side, e.outward z ≤ e.outward l.coordinate) ∧
      IsLeast (attaining c positions e.side l.coordinate) l.position := by
  constructor
  · intro h
    obtain ⟨m, hm, hl⟩ := h.attained
    refine ⟨⟨mem_coordinates.2 ⟨m, hm, by rw [hl]⟩, ?_⟩, mem_attaining.2 ⟨m, hm, ?_⟩, ?_⟩
    · intro z hz
      obtain ⟨n, hn, rfl⟩ := mem_coordinates.1 hz
      exact h.outermost n hn
    · rw [hl]
      exact ⟨rfl, rfl⟩
    · intro p hp
      obtain ⟨n, hn, rfl, hside⟩ := mem_attaining.1 hp
      exact h.lowest n hn hside
  · rintro ⟨⟨-, houtermost⟩, hattained, hlowest⟩
    obtain ⟨m, hm, hposition, hcoordinate⟩ := mem_attaining.1 hattained
    refine ⟨⟨m, hm, by rw [hposition, hcoordinate]⟩, ?_, ?_⟩
    · intro n hn
      exact houtermost _ (mem_coordinates.2 ⟨n, hn, rfl⟩)
    · intro n hn hside
      exact hlowest (mem_attaining.2 ⟨n, hn, rfl, hside⟩)

/-- A box belongs to a sequence if each of its limits does. -/
theorem isBoxOf_iff :
    IsBoxOf c positions box ↔ ∀ e, IsLimit e (members c (.ofList positions)) (box.limit e) := by
  simp only [isLimit_iff]
  rw [forall_and, Edge.forall_iff]
  simp only [Edge.outward, Int.neg_le_neg_iff, ← Int32.le_iff_toInt_le]
  constructor
  · intro h
    exact ⟨⟨h.top, h.bottom, h.left, h.right⟩, h.position⟩
  · rintro ⟨⟨htop, hbottom, hleft, hright⟩, hposition⟩
    exact ⟨htop, hbottom, hleft, hright, hposition⟩

section Unique

variable {monitors : List (Nat × Rect)} {l k : Limit} (hl : IsLimit e monitors l)
  (hk : IsLimit e monitors k)
include hl hk

theorem IsLimit.outward_le : e.outward l.coordinate ≤ e.outward k.coordinate := by
  obtain ⟨m, hm, hattained⟩ := hl.attained
  rw [hattained]
  exact hk.outermost m hm

theorem IsLimit.position_le (h : l.coordinate = k.coordinate) : l.position ≤ k.position := by
  obtain ⟨m, hm, hattained⟩ := hk.attained
  have hside : e.side m.2 = l.coordinate := by rw [h, hattained]
  rw [hattained]
  exact hl.lowest m hm hside

theorem IsLimit.unique : l = k := by
  have hcoordinate : l.coordinate = k.coordinate :=
    Edge.eq_of_outward_eq (Int.le_antisymm (hl.outward_le hk) (hk.outward_le hl))
  have hposition : l.position = k.position :=
    Nat.le_antisymm (hl.position_le hk hcoordinate) (hk.position_le hl hcoordinate.symm)
  cases l
  cases k
  exact congr (congrArg Limit.mk hcoordinate) hposition

end Unique

/-! ## The box of a sequence -/

theorem ofPositions_eq_some_iff : ofPositions c positions = some box ↔ IsBoxOf c positions box := by
  rw [isBoxOf_iff]
  constructor
  · exact isLimit_of_ofSet
  · intro h
    obtain ⟨m, hm, -⟩ := (h .top).attained
    obtain ⟨hp, d, hd, -⟩ := mem_members.1 hm
    obtain ⟨found, hfound⟩ := exists_ofSet_of_get? hp hd
    have hlimit (e : Edge) : found.limit e = box.limit e :=
      (isLimit_of_ofSet hfound e).unique (h e)
    have hbox : found = box := by
      cases found
      cases box
      rw [mk.injEq]
      exact ⟨hlimit .top, hlimit .bottom, hlimit .left, hlimit .right⟩
    rw [← hbox]
    exact hfound

theorem ofPositions_eq_none_iff :
    ofPositions c positions = none ↔ ∀ p ∈ positions, c.size ≤ p := by
  simp only [ofPositions, ofSet_eq_none_iff, SortedSet.mem_ofList]
  refine forall₂_congr fun p _ => ?_
  rw [← Option.not_isSome_iff_eq_none, Catalog.isSome_get?, decide_eq_true_iff, Nat.not_lt]

/-! ## Positions within the catalog -/

section Congr

variable (h : ∀ p < c.size, p ∈ positions ↔ p ∈ others) (side : Rect → Int32)
include h

theorem attaining_congr (z : Int32) : attaining c positions side z = attaining c others side z := by
  ext p
  exact and_congr_left fun ⟨_, hd, _⟩ => h p (Catalog.get?_eq_some_lt hd)

theorem coordinates_congr : coordinates c positions side = coordinates c others side := by
  ext z
  exact exists_congr fun p => Set.ext_iff.1 (attaining_congr h side z) p

omit side in
theorem IsBoxOf.congr (hbox : IsBoxOf c positions box) : IsBoxOf c others box where
  top := coordinates_congr h Rect.y ▸ hbox.top
  bottom := coordinates_congr h Rect.bottom ▸ hbox.bottom
  left := coordinates_congr h Rect.x ▸ hbox.left
  right := coordinates_congr h Rect.right ▸ hbox.right
  position e := attaining_congr h e.side _ ▸ hbox.position e

end Congr

/-- The catalog goes from left to right, so no position comes before the limit of the left edge: its
monitor would begin there too, and the lowest position keeps the edge. -/
theorem position_left_le {set : SortedSet Nat} {p : Nat} {d : Display}
    (hbox : ofSet c set = some box) (hp : p ∈ set) (hd : c.get? p = some d) :
    box.left.position ≤ p := by
  have hlimit : IsLimit .left (members c set) box.left := isLimit_of_ofSet hbox .left
  have hmember : (p, d.rect) ∈ members c set := mem_members.2 ⟨hp, d, hd, rfl⟩
  obtain ⟨m, hm, hattained⟩ := hlimit.attained
  obtain ⟨-, f, hf, hrect⟩ := mem_members.1 hm
  have hposition : box.left.position = m.1 := congrArg Limit.position hattained
  have hcoordinate : box.left.coordinate = m.2.x := congrArg Limit.coordinate hattained
  by_contra hlt
  have hsorted : d.rect.x.toInt ≤ f.rect.x.toInt := Catalog.left_le_left (by omega) hd hf
  rw [hrect, ← hcoordinate] at hsorted
  have houtermost := hlimit.outermost (p, d.rect) hmember
  have hside : d.rect.x = box.left.coordinate :=
    Int32.toInt_inj.1 (Int.le_antisymm hsorted (Int.neg_le_neg_iff.1 houtermost))
  exact hlt (hlimit.lowest (p, d.rect) hmember hside)

/-- The box of a sequence of positions, in any order, with repetitions and with positions beyond the
catalog. There is none exactly if every position lies beyond the catalog. Else it has at each edge
the outermost coordinate among the monitors that the sequence names, and the lowest position that
attains it; no other box has. It depends on nothing but which positions within the catalog occur,
and the lowest of these limits the left edge. -/
theorem ofPositions_outermost_lowest (c : Catalog) (positions : List Nat) :
    (ofPositions c positions = none ↔ ∀ p ∈ positions, c.size ≤ p) ∧
      (∀ box, ofPositions c positions = some box ↔ IsBoxOf c positions box) ∧
      (∀ others : List Nat, (∀ p < c.size, p ∈ positions ↔ p ∈ others) →
        ofPositions c positions = ofPositions c others) ∧
      ∀ box, ofPositions c positions = some box →
        IsLeast {p | p ∈ positions ∧ p < c.size} box.left.position := by
  refine ⟨ofPositions_eq_none_iff, fun box => ofPositions_eq_some_iff, ?_, ?_⟩
  · intro others h
    refine Option.ext fun box => ?_
    rw [ofPositions_eq_some_iff, ofPositions_eq_some_iff]
    exact ⟨fun hbox => hbox.congr h, fun hbox => hbox.congr fun p hp => (h p hp).symm⟩
  · intro box hbox
    obtain ⟨⟨hp, d, hd, -⟩, -⟩ := (ofPositions_eq_some_iff.1 hbox).position .left
    refine ⟨⟨hp, Catalog.get?_eq_some_lt hd⟩, ?_⟩
    rintro q ⟨hq, hlt⟩
    obtain ⟨f, hf⟩ := Catalog.exists_get?_of_lt hlt
    exact position_left_le hbox (SortedSet.mem_ofList.2 hq) hf

-- two monitors of one height side by side, asked for in disorder and with a position beyond them
example :
    let row := Catalog.ofDisplays [⟨0, ⟨100, 0, 100, 80⟩, none⟩, ⟨1, ⟨0, 0, 100, 80⟩, none⟩]
    ofPositions row [7, 1, 0, 1] = some ⟨⟨0, 0⟩, ⟨80, 0⟩, ⟨0, 0⟩, ⟨200, 1⟩⟩ := by decide

end Multihead.BoundingBox
