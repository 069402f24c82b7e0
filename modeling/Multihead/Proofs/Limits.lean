import Multihead.BoundingBox

/-!
# Bounding boxes as extremes

The four edges of a box are one definition at four sides: a side of a rectangle has a coordinate
(`Edge.side`), and of two coordinates one lies further out (`Edge.outward`). The limit of an edge is
the lowest position among the monitors that lie furthest out there (`IsLimit`, `isLimit_of_ofSet`).

A box overlaps a rectangle exactly if at each edge some monitor of the box reaches past the side of
the rectangle that faces it (`overlaps_iff_reachesInto`).
-/

namespace Multihead

/-! ## Sides -/

namespace Edge

/-- The side across. -/
def opposite : Edge → Edge
  | .top => .bottom
  | .bottom => .top
  | .left => .right
  | .right => .left

/-- The coordinate of a side of a rectangle. -/
def side : Edge → Rect → Int32
  | .top, r => r.y
  | .bottom, r => r.bottom
  | .left, r => r.x
  | .right, r => r.right

/-- How far out a coordinate lies on a side: a small one at the top and at the left, a large one at
the bottom and at the right. -/
def outward : Edge → Int32 → Int
  | .top, z => -z.toInt
  | .bottom, z => z.toInt
  | .left, z => -z.toInt
  | .right, z => z.toInt

theorem eq_of_outward_eq {e : Edge} {y z : Int32} (h : e.outward y = e.outward z) : y = z := by
  apply Int32.toInt_inj.1
  cases e with
  | top => exact Int.neg_inj.1 h
  | bottom => exact h
  | left => exact Int.neg_inj.1 h
  | right => exact h

theorem forall_iff {P : Edge → Prop} :
    (∀ e, P e) ↔ P .top ∧ P .bottom ∧ P .left ∧ P .right := by
  constructor
  · exact fun h => ⟨h _, h _, h _, h _⟩
  · rintro ⟨ht, hb, hl, hr⟩ (_ | _ | _ | _)
    · exact ht
    · exact hb
    · exact hl
    · exact hr

end Edge

/-- Whether `r` reaches past the side of `s` that faces the given side of `r`: at the right, its
right side lies to the right of the left side of `s`. -/
def Rect.Reaches (r s : Rect) : Edge → Prop
  | .top => r.y < s.bottom
  | .bottom => s.y < r.bottom
  | .left => r.x < s.right
  | .right => s.x < r.right

theorem Rect.reaches_iff {r s : Rect} {e : Edge} :
    r.Reaches s e ↔ e.outward (e.opposite.side s) < e.outward (e.side r) := by
  cases e <;> simp only [Reaches, Edge.outward, Edge.opposite, Edge.side, Int32.lt_iff_toInt_lt] <;>
    omega

/-- Whether at each edge some monitor at the given positions reaches past the facing side of `s`. -/
def Catalog.ReachesInto (c : Catalog) (positions : SortedSet Nat) (s : Rect) : Prop :=
  ∀ e, ∃ p ∈ positions, ∃ d, c.get? p = some d ∧ d.rect.Reaches s e

namespace BoundingBox

/-! ## The members of a box -/

theorem mem_members {c : Catalog} {positions : SortedSet Nat} {m : Nat × Rect} :
    m ∈ members c positions ↔ m.1 ∈ positions ∧ ∃ d, c.get? m.1 = some d ∧ d.rect = m.2 := by
  simp only [members, List.mem_filterMap, Option.map_eq_some_iff, SortedSet.mem_toList]
  constructor
  · rintro ⟨p, hp, d, hd, rfl⟩
    exact ⟨hp, d, hd, rfl⟩
  · rintro ⟨hp, d, hd, hr⟩
    exact ⟨m.1, hp, d, hd, by rw [hr]⟩

theorem pairwise_members (c : Catalog) (positions : SortedSet Nat) :
    (members c positions).Pairwise (·.1 < ·.1) := by
  refine positions.ascending.filterMap _ ?_
  intro p q hpq m hm n hn
  obtain ⟨_, _, rfl⟩ := Option.map_eq_some_iff.1 hm
  obtain ⟨_, _, rfl⟩ := Option.map_eq_some_iff.1 hn
  exact hpq

/-! ## The scan -/

/-- The limit of an edge among some monitors: the lowest position of those furthest out. -/
structure IsLimit (e : Edge) (monitors : List (Nat × Rect)) (l : Limit) : Prop where
  attained : ∃ m ∈ monitors, l = ⟨e.side m.2, m.1⟩
  outermost : ∀ m ∈ monitors, e.outward (e.side m.2) ≤ e.outward l.coordinate
  lowest : ∀ m ∈ monitors, e.side m.2 = l.coordinate → l.position ≤ m.1

theorem limit_seed (p : Nat) (r : Rect) (e : Edge) : (seed p r).limit e = ⟨e.side r, p⟩ := by
  cases e <;> rfl

theorem limit_extend (box : BoundingBox) (p : Nat) (r : Rect) (e : Edge) :
    (box.extend p r).limit e =
      if e.outward (box.limit e).coordinate < e.outward (e.side r) then ⟨e.side r, p⟩
      else box.limit e := by
  cases e <;> simp [extend, limit, Edge.outward, Edge.side, Int32.lt_iff_toInt_lt]

/-- One more monitor, at a higher position, is taken in. -/
theorem IsLimit.extend {e : Edge} {monitors : List (Nat × Rect)} {box : BoundingBox}
    {m : Nat × Rect} (h : IsLimit e monitors (box.limit e)) (hm : ∀ n ∈ monitors, n.1 < m.1) :
    IsLimit e (monitors ++ [m]) ((box.extend m.1 m.2).limit e) := by
  rw [limit_extend]
  split
  · next hout =>
    refine ⟨⟨m, by simp, rfl⟩, fun n hn => ?_, fun n hn hside => ?_⟩
    · rcases List.mem_append.1 hn with hn | hn
      · exact Int.le_trans (h.outermost n hn) (Int.le_of_lt hout)
      · exact Int.le_of_eq (by rw [List.mem_singleton.1 hn])
    · rcases List.mem_append.1 hn with hn | hn
      · -- an earlier monitor that far out would contradict the limit so far
        have := h.outermost n hn
        rw [hside] at this
        exact absurd hout (Int.not_lt.2 this)
      · exact Nat.le_of_eq (by rw [List.mem_singleton.1 hn])
  · next hout =>
    refine ⟨?_, fun n hn => ?_, fun n hn hside => ?_⟩
    · obtain ⟨n, hn, hl⟩ := h.attained
      exact ⟨n, List.mem_append_left _ hn, hl⟩
    · rcases List.mem_append.1 hn with hn | hn
      · exact h.outermost n hn
      · rw [List.mem_singleton.1 hn]
        exact Int.not_lt.1 hout
    · rcases List.mem_append.1 hn with hn | hn
      · exact h.lowest n hn hside
      · obtain ⟨k, hk, hl⟩ := h.attained
        rw [List.mem_singleton.1 hn, hl]
        exact Nat.le_of_lt (hm k hk)

/-- A scan of further monitors, in ascending order, keeps the limits. -/
theorem isLimit_foldl (e : Edge) (rest done : List (Nat × Rect)) (box : BoundingBox)
    (hasc : (done ++ rest).Pairwise (·.1 < ·.1)) (h : IsLimit e done (box.limit e)) :
    IsLimit e (done ++ rest) ((rest.foldl (fun box m => box.extend m.1 m.2) box).limit e) := by
  induction rest generalizing done box with
  | nil => simpa using h
  | cons m rest ih =>
    have hm : ∀ n ∈ done, n.1 < m.1 :=
      fun n hn => (List.pairwise_append.1 hasc).2.2 n hn m List.mem_cons_self
    have hstep := h.extend hm
    rw [List.append_cons] at hasc ⊢
    exact ih _ _ hasc hstep

theorem ofSet_eq_none_iff {c : Catalog} {positions : SortedSet Nat} :
    ofSet c positions = none ↔ ∀ p ∈ positions, c.get? p = none := by
  have hnil : ofSet c positions = none ↔ members c positions = [] := by
    unfold ofSet
    split
    · next h => simp [h]
    · next h => simp [h]
  rw [hnil, members, List.filterMap_eq_nil_iff]
  simp only [Option.map_eq_none_iff]
  rfl

/-- Each edge of the box of a set is limited by the lowest of its outermost monitors. -/
theorem isLimit_of_ofSet {c : Catalog} {positions : SortedSet Nat} {box : BoundingBox}
    (h : ofSet c positions = some box) (e : Edge) :
    IsLimit e (members c positions) (box.limit e) := by
  have hasc := pairwise_members c positions
  unfold ofSet at h
  split at h
  · cases h
  · next p r rest hms =>
    obtain rfl := Option.some.inj h
    rw [hms] at hasc ⊢
    refine isLimit_foldl e rest [(p, r)] (seed p r) hasc ?_
    rw [limit_seed]
    exact ⟨⟨(p, r), by simp, rfl⟩, by simp, by simp⟩

/-! ## Overlap -/

theorem overlaps_iff {box : BoundingBox} {s : Rect} :
    box.overlaps s ↔
      ∀ e : Edge, e.outward (e.opposite.side s) < e.outward (box.limit e).coordinate := by
  rw [Edge.forall_iff]
  simp only [overlaps, limit, Edge.outward, Edge.opposite, Edge.side, Bool.and_eq_true,
    decide_eq_true_eq, Int32.lt_iff_toInt_lt, gt_iff_lt]
  omega

/-- Past a limit is past some monitor. -/
theorem IsLimit.lt_iff {e : Edge} {monitors : List (Nat × Rect)} {l : Limit} {z : Int}
    (h : IsLimit e monitors l) :
    z < e.outward l.coordinate ↔ ∃ m ∈ monitors, z < e.outward (e.side m.2) := by
  constructor
  · intro hz
    obtain ⟨m, hm, rfl⟩ := h.attained
    exact ⟨m, hm, hz⟩
  · rintro ⟨m, hm, hz⟩
    exact Int.lt_of_lt_of_le hz (h.outermost m hm)

theorem overlaps_iff_reachesInto {c : Catalog} {positions : SortedSet Nat} {box : BoundingBox}
    (h : ofSet c positions = some box) {s : Rect} :
    box.overlaps s ↔ c.ReachesInto positions s := by
  rw [overlaps_iff]
  refine forall_congr' fun e => ?_
  rw [(isLimit_of_ofSet h e).lt_iff]
  constructor
  · rintro ⟨m, hm, hz⟩
    obtain ⟨hp, d, hd, hr⟩ := mem_members.1 hm
    refine ⟨m.1, hp, d, hd, Rect.reaches_iff.2 ?_⟩
    rwa [hr]
  · rintro ⟨p, hp, d, hd, hreach⟩
    exact ⟨(p, d.rect), mem_members.2 ⟨hp, d, hd, rfl⟩, Rect.reaches_iff.1 hreach⟩

/-- Positions have a box if any of them names a monitor. -/
theorem exists_ofSet_of_get? {c : Catalog} {positions : SortedSet Nat} {p : Nat} {d : Display}
    (hp : p ∈ positions) (hd : c.get? p = some d) : ∃ box, ofSet c positions = some box := by
  cases hbox : ofSet c positions with
  | none =>
    rw [ofSet_eq_none_iff.1 hbox p hp] at hd
    cases hd
  | some box => exact ⟨box, rfl⟩

theorem exists_ofSet_of_reachesInto {c : Catalog} {positions : SortedSet Nat} {s : Rect}
    (h : c.ReachesInto positions s) : ∃ box, ofSet c positions = some box := by
  obtain ⟨p, hp, d, hd, -⟩ := h .top
  exact exists_ofSet_of_get? hp hd

/-! ## More monitors -/

variable {c : Catalog} {fewer more : SortedSet Nat}

theorem mem_members_of_subset (h : ∀ p ∈ fewer, p ∈ more) {m : Nat × Rect}
    (hm : m ∈ members c fewer) : m ∈ members c more := by
  obtain ⟨hp, hd⟩ := mem_members.1 hm
  exact mem_members.2 ⟨h m.1 hp, hd⟩

/-- If some positions have a box, then more positions have one too, and each of its limits lies at
least as far out. -/
theorem exists_ofSet_of_subset (h : ∀ p ∈ fewer, p ∈ more) {box : BoundingBox}
    (hbox : ofSet c fewer = some box) :
    ∃ wider, ofSet c more = some wider ∧
      ∀ e : Edge, e.outward (box.limit e).coordinate ≤ e.outward (wider.limit e).coordinate := by
  obtain ⟨m, hm, -⟩ := (isLimit_of_ofSet hbox .top).attained
  obtain ⟨hp, d, hd, -⟩ := mem_members.1 hm
  obtain ⟨wider, hwider⟩ := exists_ofSet_of_get? (h m.1 hp) hd
  refine ⟨wider, hwider, ?_⟩
  intro e
  -- the monitor at the limit is one of the larger set
  obtain ⟨m, hm, hlimit⟩ := (isLimit_of_ofSet hbox e).attained
  have hmore : m ∈ members c more := mem_members_of_subset h hm
  have houtermost := (isLimit_of_ofSet hwider e).outermost m hmore
  rw [hlimit]
  exact houtermost

end BoundingBox

theorem Catalog.ReachesInto.mono {c : Catalog} {fewer more : SortedSet Nat} {s : Rect}
    (hreach : c.ReachesInto fewer s) (h : ∀ p ∈ fewer, p ∈ more) : c.ReachesInto more s := by
  intro e
  obtain ⟨p, hp, d, hd, hside⟩ := hreach e
  exact ⟨p, h p hp, d, hd, hside⟩

end Multihead
