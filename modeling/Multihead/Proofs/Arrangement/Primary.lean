import Multihead.Proofs.Arrangement.FrameBuffer
import Multihead.Proofs.BoundingBox

/-!
# Limits of the frame buffer and the primary monitor

The box, its limits and the primary monitor are looked up separately, and each works out the active
monitors anew. They agree on when there is an answer: in a mode that covers more than the current
monitor, with something selected (`limits_and_primary`). The limit of an edge is an active monitor
with that edge. The catalog goes from left to right, so the first active monitor, which is the
primary one unless the platform's first display is active, is the one that limits the left edge
(`head?_indicesAt_active`).
-/

namespace Multihead

/-- The members of a set come after the first one. -/
theorem SortedSet.exists_first {s : SortedSet Nat} (h : s ≠ ∅) :
    ∃ p rest, s.toList = p :: rest ∧ ∀ q ∈ s, p ≤ q := by
  have hascending := s.ascending
  cases hlist : s.toList with
  | nil =>
    refine absurd (SortedSet.eq_empty_iff.2 fun p hp => ?_) h
    rw [← SortedSet.mem_toList, hlist] at hp
    cases hp
  | cons p rest =>
    rw [hlist] at hascending
    refine ⟨p, rest, rfl, ?_⟩
    intro q hq
    rw [← SortedSet.mem_toList, hlist] at hq
    rcases List.mem_cons.1 hq with rfl | hrest
    · exact Nat.le_refl q
    · exact Nat.le_of_lt ((List.pairwise_cons.1 hascending).1 q hrest)

/-- The first of some positions limits the left edge of their box. -/
theorem BoundingBox.position_left {c : Catalog} {positions : SortedSet Nat} {box : BoundingBox}
    {p : Nat} {d : Display} (hbox : ofSet c positions = some box) (hp : p ∈ positions)
    (hfirst : ∀ q ∈ positions, p ≤ q) (hd : c.get? p = some d) : box.left.position = p := by
  obtain ⟨m, hm, hattained⟩ := (isLimit_of_ofSet hbox .left).attained
  have hposition : box.left.position = m.1 := congrArg Limit.position hattained
  have hle : p ≤ box.left.position := by
    rw [hposition]
    exact hfirst m.1 (mem_members.1 hm).1
  exact Nat.le_antisymm (position_left_le hbox hp hd) hle

/-- A preferred member of a list if it is there, and else the first member. -/
theorem find?_or_head? {α : Type} [DecidableEq α] (a : α) (l : List α) :
    (l.find? (· = a)).or l.head? = if a ∈ l then some a else l.head? := by
  split
  · next hmem =>
    have hfind : l.find? (· = a) = some a := by
      cases h : l.find? (· = a) with
      | none => simpa using List.find?_eq_none.1 h a hmem
      | some b =>
        have hb : b = a := by simpa using List.find?_some h
        rw [hb]
    rw [hfind, Option.some_or]
  · next hmem =>
    have hfind : l.find? (· = a) = none := by
      rw [List.find?_eq_none]
      intro b hb heq
      exact hmem (of_decide_eq_true heq ▸ hb)
    rw [hfind, Option.none_or]

namespace Arrangement

variable {a : Arrangement}

/-! ## When there is a frame buffer -/

/-- The mode covers more than the current monitor, and something counts as selected. -/
def HasFrame (a : Arrangement) : Prop := a.mode ≠ .current ∧ a.selected ≠ ∅

/-- Only a selection requires anything, so there is a box as soon as something is selected. -/
theorem exists_boundingBox_iff : (∃ box, a.boundingBox = some box) ↔ a.HasFrame := by
  constructor
  · rintro ⟨box, hbox⟩
    obtain ⟨hmode, hset⟩ := boundingBox_eq_some_iff.1 hbox
    refine ⟨hmode, ?_⟩
    intro hselected
    rw [active, required, hselected] at hset
    cases hset
  · rintro ⟨hmode, hselected⟩
    rw [boundingBox_of_ne_current hmode]
    obtain ⟨p, hp⟩ : ∃ p, p ∈ a.selected := by
      by_contra hnone
      exact hselected (SortedSet.eq_empty_iff.2 (not_exists.1 hnone))
    have hactive : p ∈ a.active := SortedSet.mem_union.2 (.inl hp)
    obtain ⟨d, hd⟩ := exists_get?_of_mem_active hactive
    exact BoundingBox.exists_ofSet_of_get? hactive hd

theorem boundingBox_eq_none_iff : a.boundingBox = none ↔ ¬ a.HasFrame := by
  rw [← exists_boundingBox_iff, ← Option.isSome_iff_exists, Option.not_isSome_iff_eq_none]

/-! ## Limits -/

theorem limit_eq (a : Arrangement) (e : Edge) :
    a.limit e = (a.boundingBox.bind fun box => a.catalog.get? (box.limit e).position).map
      (·.stableIndex) := by
  unfold limit
  cases a.boundingBox with
  | none => rfl
  | some box => cases h : a.catalog.get? (box.limit e).position <;> simp [h]

/-- An edge is limited by an active monitor that has its own edge there. -/
theorem exists_limit {box : BoundingBox} (hbox : a.boundingBox = some box) (e : Edge) :
    ∃ p ∈ a.active, ∃ d, a.catalog.get? p = some d ∧ a.limit e = some d.stableIndex ∧
      e.side d.rect = e.side a.frameBuffer := by
  obtain ⟨-, hset⟩ := boundingBox_eq_some_iff.1 hbox
  obtain ⟨m, hm, hattained⟩ := (BoundingBox.isLimit_of_ofSet hset e).attained
  obtain ⟨hp, d, hd, hrect⟩ := BoundingBox.mem_members.1 hm
  refine ⟨m.1, hp, d, hd, ?_, ?_⟩
  · rw [limit_eq, hbox, Option.bind_some, hattained, hd, Option.map_some]
  · rw [side_frameBuffer hbox, hattained, hrect]

/-! ## The primary monitor -/

theorem primaryIndex_of_ne_current (hmode : a.mode ≠ .current) :
    a.primaryIndex =
      if 0 ∈ a.catalog.indicesAt a.active then some 0
      else (a.catalog.indicesAt a.active).head? := by
  rw [← find?_or_head?]
  exact if_pos (bne_iff_ne.2 hmode)

/-- The first active monitor limits the left edge. -/
theorem head?_indicesAt_active {box : BoundingBox} (hbox : a.boundingBox = some box) :
    (a.catalog.indicesAt a.active).head? = a.limit .left := by
  obtain ⟨-, hset⟩ := boundingBox_eq_some_iff.1 hbox
  have hnonempty : a.active ≠ ∅ := by
    intro hempty
    rw [hempty] at hset
    cases hset
  obtain ⟨p, rest, hlist, hfirst⟩ := SortedSet.exists_first hnonempty
  have hp : p ∈ a.active := SortedSet.mem_toList.1 (hlist ▸ List.mem_cons_self)
  obtain ⟨d, hd⟩ := exists_get?_of_mem_active hp
  have hposition : (box.limit .left).position = p := BoundingBox.position_left hset hp hfirst hd
  rw [limit_eq, hbox, Option.bind_some, hposition, hd, Option.map_some, Catalog.indicesAt, hlist,
    List.filterMap_cons_some hd, List.map_cons, List.head?_cons]

/-- The platform's first display is the primary monitor exactly if it is active. -/
theorem primaryIndex_eq_zero_iff (hmode : a.mode ≠ .current) :
    a.primaryIndex = some 0 ↔ 0 ∈ a.catalog.indicesAt a.active := by
  rw [primaryIndex_of_ne_current hmode]
  split
  · next hzero => exact iff_of_true rfl hzero
  · next hzero =>
    refine iff_of_false ?_ hzero
    intro hhead
    exact hzero (List.mem_of_mem_head? hhead)

theorem primaryIndex_eq_limit_left {box : BoundingBox} (hbox : a.boundingBox = some box)
    (hzero : a.primaryIndex ≠ some 0) : a.primaryIndex = a.limit .left := by
  obtain ⟨hmode, -⟩ := boundingBox_eq_some_iff.1 hbox
  have hinactive : 0 ∉ a.catalog.indicesAt a.active := by
    intro hactive
    exact hzero ((primaryIndex_eq_zero_iff hmode).2 hactive)
  rw [primaryIndex_of_ne_current hmode, if_neg hinactive, head?_indicesAt_active hbox]

/-! ## One condition for all -/

theorem isSome_limit_iff (e : Edge) : (a.limit e).isSome ↔ a.HasFrame := by
  constructor
  · intro hsome
    by_contra hframe
    rw [limit_eq, boundingBox_eq_none_iff.2 hframe] at hsome
    cases hsome
  · intro hframe
    obtain ⟨box, hbox⟩ := exists_boundingBox_iff.2 hframe
    obtain ⟨p, hp, d, hd, hlimit, -⟩ := exists_limit hbox e
    rw [hlimit]
    rfl

theorem isSome_primaryIndex_iff : a.primaryIndex.isSome ↔ a.HasFrame := by
  constructor
  · intro hsome
    have hmode : a.mode ≠ .current := by
      intro hcurrent
      rw [primaryIndex, hcurrent] at hsome
      cases hsome
    -- the primary monitor is an active one, and that has a box
    have hnonempty : a.catalog.indicesAt a.active ≠ [] := by
      intro hnil
      rw [primaryIndex_of_ne_current hmode, hnil] at hsome
      cases hsome
    obtain ⟨i, hi⟩ := List.exists_mem_of_ne_nil _ hnonempty
    obtain ⟨p, hp, d, hd, -⟩ := Catalog.mem_indicesAt.1 hi
    have hbox := BoundingBox.exists_ofSet_of_get? hp hd
    rw [← boundingBox_of_ne_current hmode] at hbox
    exact exists_boundingBox_iff.1 hbox
  · intro hframe
    obtain ⟨box, hbox⟩ := exists_boundingBox_iff.2 hframe
    by_cases hzero : a.primaryIndex = some 0
    · rw [hzero]
      rfl
    · rw [primaryIndex_eq_limit_left hbox hzero]
      exact (isSome_limit_iff .left).2 hframe

/-- When an arrangement has a box, limits and a primary monitor, and which monitors these are,
whatever calls led to it. All of them are there exactly if the mode covers more than the current
monitor and something is selected, and without them the frame buffer has no extent. An edge is
limited by an active monitor that has its own edge where the frame buffer has it. The platform's
first display is the primary monitor exactly if it is active; otherwise that is the monitor at the
left edge. -/
theorem limits_and_primary (a : Arrangement) :
    (a.boundingBox.isSome ↔ a.HasFrame) ∧ (∀ e, (a.limit e).isSome ↔ a.HasFrame) ∧
      (a.primary.value.isSome ↔ a.HasFrame) ∧
      (¬ a.HasFrame → a.frameBuffer = .zero) ∧
      (a.HasFrame →
        (∀ e, ∃ p ∈ a.active, ∃ d, a.catalog.get? p = some d ∧ a.limit e = some d.stableIndex ∧
          e.side d.rect = e.side a.frameBuffer) ∧
        (a.primary.value = some 0 ↔
          ∃ p ∈ a.active, ∃ d, a.catalog.get? p = some d ∧ d.stableIndex = 0) ∧
        (a.primary.value ≠ some 0 → a.primary.value = a.limit .left)) := by
  have hprimary : a.primary.value = a.primaryIndex := rfl
  rw [hprimary, Option.isSome_iff_exists]
  refine ⟨exists_boundingBox_iff, isSome_limit_iff, isSome_primaryIndex_iff, ?_, ?_⟩
  · intro hframe
    rw [frameBuffer, boundingBox_eq_none_iff.2 hframe]
    rfl
  · intro hframe
    obtain ⟨box, hbox⟩ := exists_boundingBox_iff.2 hframe
    refine ⟨exists_limit hbox, ?_, primaryIndex_eq_limit_left hbox⟩
    rw [primaryIndex_eq_zero_iff hframe.1, Catalog.mem_indicesAt]

end Arrangement

end Multihead
