import Multihead.Proofs.Arrangement.FrameBuffer
import Multihead.Proofs.Layout

/-!
# Asking about one position and asking for all of them

What may be asked about a position is answered exactly for the positions of monitors, and refused
with one and the same error beyond them, although some questions look at the catalog and others at
the selection (`answers_of_lt`, `refuses_of_le`). The answers are those that the sets of selected,
required and active positions give (`queries_agree`).
-/

namespace Multihead.Arrangement

variable {a : Arrangement} {p : Nat}

/-! ## One position -/

/-- The answers about a position that names a monitor. -/
structure Answers (a : Arrangement) (p : Nat) : Prop where
  isSelected : a.isSelected p = .ok (decide (p ∈ a.selected))
  isRequired : a.isRequired p = .ok (decide (p ∈ a.required))
  monitor : ∃ d, a.catalog.get? p = some d ∧ a.dimensions p = .ok d.rect ∧
    a.description p = .ok d.description
  check : a.check p = .ok ()
  set : ∀ selected, ∃ b, ((Arrangement.set p selected).on a).value = (.ok (), b)
  toggle : ∃ selected b, ((Arrangement.toggle p).on a).value = (.ok selected, b)

/-- Whatever is asked about a position, the answer is the same error, and nothing changes. -/
structure Refuses (a : Arrangement) (p : Nat) (e : ArrangementError) : Prop where
  isSelected : a.isSelected p = .error e
  isRequired : a.isRequired p = .error e
  dimensions : a.dimensions p = .error e
  description : a.description p = .error e
  check : a.check p = .error e
  set : ∀ selected, ((Arrangement.set p selected).on a).value = (.error e, a)
  toggle : ((Arrangement.toggle p).on a).value = (.error e, a)

/-- The mode and the selection together say what the set of selected positions says. -/
theorem isSelected_of_lt (h : p < a.count) :
    a.isSelected p = .ok (decide (p ∈ a.selected)) := by
  have hcontains : a.selection.contains p = .ok (decide (p ∈ a.selection.positions)) := if_pos h
  simp only [isSelected, hcontains, bind, Except.bind]
  by_cases hmode : a.mode = .all
  · have hmem : p ∈ a.selected := by
      rw [selected_of_all hmode]
      exact SortedSet.mem_range.2 h
    rw [decide_eq_true hmode, decide_eq_true hmem]
    rfl
  · rw [decide_eq_false hmode, selected_of_ne_all hmode]
    rfl

theorem answers_of_lt (h : p < a.count) : a.Answers p := by
  have hcheck : a.catalog.check p = .ok () := if_pos h
  obtain ⟨d, hd⟩ := Catalog.exists_get?_of_lt h
  have hmonitor : a.catalog.monitor p = .ok d := by rw [Catalog.monitor, hd]
  refine ⟨isSelected_of_lt h, ?_, ⟨d, hd, ?_, ?_⟩, hcheck, ?_, ?_⟩
  · simp only [isRequired, Catalog.isRequired, hcheck]
    rfl
  · rw [dimensions, Catalog.rect, hmonitor]
    rfl
  · rw [description, Catalog.description, hmonitor]
    rfl
  · intro selected
    obtain ⟨t, ht, -⟩ := a.selection.set_of_lt selected h
    refine ⟨a.withSelection t, ?_⟩
    rw [on_set, ht]
    rfl
  · obtain ⟨t, ht, -⟩ := a.selection.toggle_of_lt h
    refine ⟨decide (p ∉ a.selection.positions), a.withSelection t, ?_⟩
    rw [on_toggle, ht]
    rfl

theorem refuses_of_le (h : a.count ≤ p) : a.Refuses p (.outOfRange p a.count) := by
  have hcontains : a.selection.contains p = .error (.outOfRange p a.count) :=
    if_neg (Nat.not_lt.2 h)
  have hcheck : a.catalog.check p = .error (.outOfRange p a.count) := if_neg (Nat.not_lt.2 h)
  have hget : a.catalog.get? p = none := List.getElem?_eq_none h
  have hmonitor : a.catalog.monitor p = .error (.outOfRange p a.count) := by
    rw [Catalog.monitor, hget]
    rfl
  refine ⟨?_, ?_, ?_, ?_, hcheck, ?_, ?_⟩
  · rw [isSelected, hcontains]
    rfl
  · rw [isRequired, Catalog.isRequired, hcheck]
    rfl
  · rw [dimensions, Catalog.rect, hmonitor]
    rfl
  · rw [description, Catalog.description, hmonitor]
    rfl
  · intro selected
    rw [on_set, a.selection.set_of_le selected h]
    rfl
  · rw [on_toggle, a.selection.toggle_of_le h]
    rfl

/-! ## The sets of positions -/

theorem not_mem_selected_of_mem_required (hp : p ∈ a.required) : p ∉ a.selected :=
  (Catalog.mem_required_iff.1 hp).1

theorem hasRequired_iff : a.hasRequired = true ↔ a.required ≠ ∅ := by
  rw [hasRequired, Bool.not_eq_true', ← Bool.not_eq_true, SortedSet.isEmpty_iff]

/-- With every monitor selected there is none left to require. -/
theorem required_of_all (hmode : a.mode = .all) : a.required = ∅ := by
  refine SortedSet.eq_empty_iff.2 fun p hp => not_mem_selected_of_mem_required hp ?_
  rw [selected_of_all hmode]
  exact SortedSet.mem_range.2 (lt_count_of_mem_active (SortedSet.mem_union.2 (.inr hp)))

/-- No selected position is passed over when the selected monitors are listed. -/
theorem map_some_selectedDisplays :
    a.selectedDisplays.map some = a.selected.toList.map a.catalog.get? := by
  rw [selectedDisplays, List.map_filterMap, ← List.filterMap_eq_map]
  refine List.filterMap_congr fun p hp => ?_
  obtain ⟨d, hd⟩ := Catalog.exists_get?_of_lt (lt_count_of_mem_selected hp)
  rw [Function.comp_apply, hd]
  rfl

theorem selectedDisplays_sublist : a.selectedDisplays.Sublist a.catalog.monitors := by
  have hselected : a.selected = (SortedSet.range a.count).filter (· ∈ a.selected) := by
    ext p
    rw [SortedSet.mem_filter, SortedSet.mem_range, decide_eq_true_eq]
    exact ⟨fun hp => ⟨lt_count_of_mem_selected hp, hp⟩, And.right⟩
  have hrange : a.selected.toList.Sublist (List.range a.catalog.monitors.length) := by
    rw [hselected]
    exact List.filter_sublist
  have hmonitors := hrange.filterMap a.catalog.get?
  rwa [show a.catalog.get? = (a.catalog.monitors[·]?) from rfl, Layout.filterMap_range_getElem?,
    List.take_length] at hmonitors

/-- The queries of an arrangement, whatever calls led to it. Each question or request about a
position is answered if it names a monitor, and otherwise refused with the position and the number
of monitors. A position is said to be selected or required exactly if it is in the set of these
positions, and it is never both. The active positions are these two sets together, and all of them
name monitors. There are required monitors exactly if their set has a member, the list of the
selected monitors has one entry for each selected position, in the order of the catalog, in the mode
`all` every monitor is selected and none is required, and in every mode but `current` the box is
that of the active positions. -/
theorem queries_agree (a : Arrangement) :
    (∀ p, p < a.count → a.Answers p) ∧
      (∀ p, ¬ p < a.count → a.Refuses p (.outOfRange p a.count)) ∧
      ((∀ p, p ∈ a.active ↔ p ∈ a.selected ∨ p ∈ a.required) ∧
        (∀ p, ¬ (p ∈ a.selected ∧ p ∈ a.required)) ∧ ∀ p ∈ a.active, p < a.count) ∧
      (a.hasRequired = true ↔ a.required ≠ ∅) ∧
      (a.selectedDisplays.map some = a.selected.toList.map a.catalog.get? ∧
        a.selectedDisplays.Sublist a.catalog.monitors) ∧
      (a.mode = .all → (∀ p, p < a.count → p ∈ a.selected) ∧ a.required = ∅) ∧
      (a.mode ≠ .current → a.boundingBox = BoundingBox.ofSet a.catalog a.active) := by
  refine ⟨fun p => answers_of_lt, fun p hp => refuses_of_le (Nat.not_lt.1 hp), ⟨?_, ?_, ?_⟩,
    hasRequired_iff, ⟨map_some_selectedDisplays, selectedDisplays_sublist⟩, ?_,
    boundingBox_of_ne_current⟩
  · exact fun p => SortedSet.mem_union
  · rintro p ⟨hselected, hrequired⟩
    exact not_mem_selected_of_mem_required hrequired hselected
  · exact fun p => lt_count_of_mem_active
  · intro hmode
    refine ⟨fun p hp => ?_, required_of_all hmode⟩
    rw [selected_of_all hmode]
    exact SortedSet.mem_range.2 hp

end Multihead.Arrangement
