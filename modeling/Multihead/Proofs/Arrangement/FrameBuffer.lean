import Multihead.Proofs.Arrangement.Replay
import Multihead.Proofs.Catalog
import Multihead.Proofs.DesktopBounds
import Multihead.Proofs.Requirement

/-!
# The frame buffer

An active position is in range: a selection holds no other positions, and only a monitor is ever
required (`lt_count_of_mem_active`). So the frame buffer, as long as the mode covers more than the
current monitor, is the rectangle that bounds the displays at the active positions
(`frameBuffer_eq_desktopBounds`). Converting the box to an origin and a size loses none of its
sides.
-/

namespace Multihead

/-- Whether a rectangle lies between the sides of another. -/
structure Rect.Within (r s : Rect) : Prop where
  left : s.x ≤ r.x
  right : r.right ≤ s.right
  top : s.y ≤ r.y
  bottom : r.bottom ≤ s.bottom

theorem Rect.within_of_outward {r s : Rect}
    (h : ∀ e : Edge, e.outward (e.side r) ≤ e.outward (e.side s)) : r.Within s := by
  obtain ⟨htop, hbottom, hleft, hright⟩ := Edge.forall_iff.1 h
  simp only [Edge.outward, Edge.side, Int.neg_le_neg_iff] at htop hbottom hleft hright
  constructor
  · exact Int32.le_iff_toInt_le.2 hleft
  · exact Int32.le_iff_toInt_le.2 hright
  · exact Int32.le_iff_toInt_le.2 htop
  · exact Int32.le_iff_toInt_le.2 hbottom

namespace Arrangement

variable {a : Arrangement} {p : Nat}

/-! ## Active positions -/

theorem selected_of_all (hmode : a.mode = .all) : a.selected = .range a.count := by
  simp [selected, hmode]

theorem selected_of_ne_all (hmode : a.mode ≠ .all) : a.selected = a.selection.positions := by
  unfold selected
  split
  · exact absurd ‹_› hmode
  · rfl

theorem lt_count_of_mem_selected (hp : p ∈ a.selected) : p < a.count := by
  by_cases hmode : a.mode = .all
  · rw [selected_of_all hmode] at hp
    exact SortedSet.mem_range.1 hp
  · rw [selected_of_ne_all hmode] at hp
    exact a.selection.inRange p hp

theorem lt_count_of_mem_active (hp : p ∈ a.active) : p < a.count := by
  rcases SortedSet.mem_union.1 hp with hselected | hrequired
  · exact lt_count_of_mem_selected hselected
  · obtain ⟨-, d, hd, -⟩ := Catalog.mem_required_iff.1 hrequired
    exact Catalog.get?_eq_some_lt hd

theorem exists_get?_of_mem_active (hp : p ∈ a.active) : ∃ d, a.catalog.get? p = some d :=
  Catalog.exists_get?_of_lt (lt_count_of_mem_active hp)

theorem mem_active_of_all (hmode : a.mode = .all) : p ∈ a.active ↔ p < a.count := by
  constructor
  · exact lt_count_of_mem_active
  · intro hp
    refine SortedSet.mem_union.2 (.inl ?_)
    rw [selected_of_all hmode]
    exact SortedSet.mem_range.2 hp

/-! ## The frame buffer and its box -/

theorem boundingBox_of_ne_current (hmode : a.mode ≠ .current) :
    a.boundingBox = BoundingBox.ofSet a.catalog a.active :=
  if_pos (bne_iff_ne.2 hmode)

theorem boundingBox_eq_some_iff {box : BoundingBox} :
    a.boundingBox = some box ↔
      a.mode ≠ .current ∧ BoundingBox.ofSet a.catalog a.active = some box := by
  by_cases hmode : a.mode = .current
  · have hnone : a.boundingBox = none := by
      rw [boundingBox, hmode]
      rfl
    rw [hnone]
    exact iff_of_false nofun fun h => h.1 hmode
  · rw [boundingBox_of_ne_current hmode, and_iff_right hmode]

theorem side_frameBuffer {box : BoundingBox} (hbox : a.boundingBox = some box) (e : Edge) :
    e.side a.frameBuffer = (box.limit e).coordinate := by
  have hrect : a.frameBuffer = box.rect := by simp [frameBuffer, hbox]
  obtain ⟨-, hset⟩ := boundingBox_eq_some_iff.1 hbox
  rw [hrect, BoundingBox.side_rect hset]

/-- The frame buffer bounds any list of displays that are those at the active positions. -/
theorem frameBuffer_of_mem_iff {displays : List Display} (hmode : a.mode ≠ .current)
    (h : ∀ d, d ∈ displays ↔ ∃ p ∈ a.active, a.catalog.get? p = some d) :
    a.frameBuffer = (desktopBounds displays).getD .zero := by
  rw [frameBuffer, boundingBox_of_ne_current hmode, BoundingBox.map_rect_ofSet h]

theorem within_frameBuffer {box : BoundingBox} {d : Display} (hbox : a.boundingBox = some box)
    (hp : p ∈ a.active) (hd : a.catalog.get? p = some d) : d.rect.Within a.frameBuffer := by
  obtain ⟨-, hset⟩ := boundingBox_eq_some_iff.1 hbox
  have hmember : (p, d.rect) ∈ BoundingBox.members a.catalog a.active :=
    BoundingBox.mem_members.2 ⟨hp, d, hd, rfl⟩
  refine Rect.within_of_outward fun e => ?_
  rw [side_frameBuffer hbox]
  exact (BoundingBox.isLimit_of_ofSet hset e).outermost (p, d.rect) hmember

/-- The frame buffer after any calls, in a mode that covers more than the current monitor. It bounds
the displays at the active positions, taken in any order and with any repetitions. Where there is a
box, the frame buffer ends where the box ends, and every active monitor lies within it. In the mode
`all` it bounds all displays, as they were given. -/
theorem frameBuffer_eq_desktopBounds (displays : List Display) (calls : List Call) :
    let a := (ofDisplays displays).value.performAll calls
    a.mode ≠ .current →
      (∀ order : List Nat, (∀ p, p ∈ order ↔ p ∈ a.active) →
        a.frameBuffer = (desktopBounds (order.filterMap a.catalog.get?)).getD .zero) ∧
      (∀ box, a.boundingBox = some box →
        a.frameBuffer.right = box.right.coordinate ∧
          a.frameBuffer.bottom = box.bottom.coordinate ∧
          ∀ p ∈ a.active, ∃ d, a.catalog.get? p = some d ∧ d.rect.Within a.frameBuffer) ∧
      (a.mode = .all → a.frameBuffer = (desktopBounds displays).getD .zero) := by
  intro a hmode
  refine ⟨?_, ?_, ?_⟩
  · intro order horder
    refine frameBuffer_of_mem_iff hmode fun d => ?_
    rw [List.mem_filterMap]
    simp only [horder]
  · intro box hbox
    refine ⟨side_frameBuffer hbox .right, side_frameBuffer hbox .bottom, ?_⟩
    intro p hp
    obtain ⟨d, hd⟩ := exists_get?_of_mem_active hp
    exact ⟨d, hd, within_frameBuffer hbox hp hd⟩
  · intro hall
    refine frameBuffer_of_mem_iff hmode fun d => ?_
    rw [← (perm_monitors_performAll displays calls).mem_iff, Catalog.mem_monitors_iff]
    constructor
    · rintro ⟨p, hd⟩
      exact ⟨p, (mem_active_of_all hall).2 (Catalog.get?_eq_some_lt hd), hd⟩
    · rintro ⟨p, -, hd⟩
      exact ⟨p, hd⟩

/-- Three monitors from the first to the last column, the last of them cut off there. Selecting the
outer two requires the middle one, and the width of the frame buffer takes all 32 bits. In the mode
`all` the frame buffer is the same. -/
theorem frameBuffer_eq_desktopBounds_full_width :
    let displays : List Display := [⟨0, ⟨2147483000, -100, 4294967295, 300⟩, none⟩,
      ⟨1, ⟨-2147483648, 0, 200, 100⟩, none⟩, ⟨2, ⟨0, 50, 100, 10⟩, none⟩]
    let wide : Rect := ⟨-2147483648, -100, 4294967295, 300⟩
    let a := (ofDisplays displays).value.performAll [.applyText "1,3"]
    let b := (ofDisplays displays).value.performAll [.toggle 1, .setMode .all]
    (a.mode ≠ .current ∧ a.required = .ofList [1] ∧ a.frameBuffer = wide ∧
      a.frameBuffer = (desktopBounds ([2, 0, 1].filterMap a.catalog.get?)).getD .zero) ∧
    b.mode ≠ .current ∧ b.mode = .all ∧ b.frameBuffer = wide ∧
      b.frameBuffer = (desktopBounds displays).getD .zero := by
  intro displays wide a b
  have hmodeA : a.mode ≠ .current := by decide
  have hmodeB : b.mode ≠ .current := by decide
  have horder : ∀ p, p ∈ [2, 0, 1] ↔ p ∈ a.active := by
    have hactive : a.active = .ofList [2, 0, 1] := by decide
    intro p
    rw [hactive, SortedSet.mem_ofList]
  obtain ⟨hbounds, -, -⟩ := frameBuffer_eq_desktopBounds displays [.applyText "1,3"] hmodeA
  obtain ⟨-, -, hall⟩ := frameBuffer_eq_desktopBounds displays [.toggle 1, .setMode .all] hmodeB
  exact ⟨⟨hmodeA, by decide, by decide, hbounds _ horder⟩, hmodeB, rfl, by decide, hall rfl⟩

end Arrangement

end Multihead
