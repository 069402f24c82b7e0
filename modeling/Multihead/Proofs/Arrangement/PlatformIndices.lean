import Multihead.Proofs.Arrangement.Restore
import Multihead.Proofs.Arrangement.Replay
import Multihead.Proofs.Catalog
import Multihead.Proofs.DisplaySource

/-!
# Selecting by platform index

A display source gives every display that it can resolve the index at which it was asked, so no two
displays of a snapshot have the same one, whichever were skipped (`ascending_enumerate`). Sorting
and calls keep the monitors, so in every arrangement that was made from a source a platform index
means one position at most. Selecting by platform index is then exact: what is selected afterwards
are the given indices without those that no monitor has, and selecting what is selected changes
nothing (`platform_indices_exact`).
-/

namespace Multihead

namespace Arrangement

variable {a : Arrangement} {i : UInt32} {p : Nat}

theorem distinctIndices_performAll (source : DisplaySource) (calls : List Call) :
    ((ofSource source).value.performAll calls).catalog.DistinctIndices := by
  have hperm := perm_monitors_performAll source.enumerate.value calls
  have hne : source.enumerate.value.Pairwise fun d e => d.stableIndex ≠ e.stableIndex :=
    source.ascending_enumerate.imp UInt32.ne_of_lt
  exact (hperm.pairwise_iff Ne.symm).2 hne

theorem mem_selectedIndices :
    i ∈ a.selectedIndices ↔
      ∃ p ∈ a.selection.positions, ∃ d, a.catalog.get? p = some d ∧ d.stableIndex = i := by
  rw [← Catalog.mem_indicesAt]
  exact SortedSet.mem_ofList

/-- The indices that selecting gives back are those that no monitor has. -/
theorem mem_unknown_iff {indices : SortedSet UInt32} :
    i ∈ indices.toList.filter (a.catalog.positionOf? · |>.isNone) ↔
      i ∈ indices ∧ ∀ d ∈ a.catalog.monitors, d.stableIndex ≠ i := by
  rw [List.mem_filter, SortedSet.mem_toList, Option.isNone_iff_eq_none,
    Catalog.positionOf?_eq_none_iff]

section Distinct

variable {b : Arrangement} {indices : SortedSet UInt32}

/-- Where platform indices are distinct, the positions found for some of them have exactly those of
them that belong to a monitor. -/
theorem mem_selectedIndices_of_found (hdistinct : a.catalog.DistinctIndices)
    (hcatalog : b.catalog = a.catalog)
    (hfound : b.selection.positions = .ofList (indices.toList.filterMap a.catalog.positionOf?)) :
    i ∈ b.selectedIndices ↔ i ∈ indices ∧ ∃ d ∈ a.catalog.monitors, d.stableIndex = i := by
  simp only [mem_selectedIndices, hfound, hcatalog, SortedSet.mem_ofList, List.mem_filterMap,
    SortedSet.mem_toList, hdistinct.positionOf?_eq_some_iff]
  constructor
  · rintro ⟨p, ⟨j, hj, e, he, hindex⟩, d, hd, hi⟩
    obtain rfl := Option.some.inj (hd.symm.trans he)
    obtain rfl : j = i := hindex.symm.trans hi
    exact ⟨hj, d, Catalog.mem_monitors_iff.2 ⟨p, hd⟩, hi⟩
  · rintro ⟨hi, d, hd, hindex⟩
    obtain ⟨p, hp⟩ := Catalog.mem_monitors_iff.1 hd
    exact ⟨p, ⟨i, hi, d, hp, hindex⟩, d, hp, hindex⟩

/-- Where platform indices are distinct, the positions found for the selected ones are the selected
positions. -/
theorem mem_found_selectedIndices (hdistinct : a.catalog.DistinctIndices) :
    p ∈ SortedSet.ofList (a.selectedIndices.toList.filterMap a.catalog.positionOf?) ↔
      p ∈ a.selection.positions := by
  simp only [SortedSet.mem_ofList, List.mem_filterMap, SortedSet.mem_toList,
    hdistinct.positionOf?_eq_some_iff, mem_selectedIndices]
  constructor
  · rintro ⟨i, ⟨q, hq, e, he, hindex⟩, d, hd, hi⟩
    have hpq : p = q := hdistinct.position_unique hd he (hi.trans hindex.symm)
    rw [hpq]
    exact hq
  · intro hp
    obtain ⟨d, hd⟩ := Catalog.exists_get?_of_lt (a.selection.inRange p hp)
    exact ⟨d.stableIndex, ⟨p, hp, d, hd, rfl⟩, d, hd, rfl⟩

theorem selectIndices_selectedIndices (hdistinct : a.catalog.DistinctIndices) :
    ((selectIndices a.selectedIndices).on a).value = (.ok [], a) := by
  obtain ⟨b, hselect, hcatalog, hmode, hfound⟩ := a.exists_selectIndices a.selectedIndices
  have hnone : a.selectedIndices.toList.filter (a.catalog.positionOf? · |>.isNone) = [] := by
    rw [List.eq_nil_iff_forall_not_mem]
    intro i hi
    obtain ⟨hselected, habsent⟩ := mem_unknown_iff.1 hi
    obtain ⟨p, -, d, hd, hindex⟩ := mem_selectedIndices.1 hselected
    exact habsent d (Catalog.mem_monitors_iff.2 ⟨p, hd⟩) hindex
  have hback : b = a := by
    refine eq_of_positions_eq hcatalog hmode (SortedSet.ext fun p => ?_)
    rw [hfound]
    exact mem_found_selectedIndices hdistinct
  rw [hselect, hnone, hback]

end Distinct

/-- Platform indices in an arrangement that was made from a source, after any calls. No two monitors
share one, and looking up an index finds the position that has it and no other. Selecting by index
never fails: it gives back, in ascending order, those of the given indices that no monitor has, the
rest is what is selected from then on, and the mode stays. Selecting the indices that are selected
gives back none and changes nothing. -/
theorem platform_indices_exact (source : DisplaySource) (calls : List Call) :
    let a := (ofSource source).value.performAll calls
    a.catalog.DistinctIndices ∧
      (∀ i p, a.catalog.positionOf? i = some p ↔
        ∃ d, a.catalog.get? p = some d ∧ d.stableIndex = i) ∧
      (∀ indices : SortedSet UInt32, ∃ unknown b,
        ((selectIndices indices).on a).value = (.ok unknown, b) ∧
          unknown.Pairwise (· < ·) ∧
          (∀ i, i ∈ unknown ↔ i ∈ indices ∧ ∀ d ∈ a.catalog.monitors, d.stableIndex ≠ i) ∧
          (∀ i, i ∈ b.selectedIndices ↔ i ∈ indices ∧ i ∉ unknown) ∧ b.mode = a.mode) ∧
      ((selectIndices a.selectedIndices).on a).value = (.ok [], a) := by
  intro a
  have hdistinct : a.catalog.DistinctIndices := distinctIndices_performAll source calls
  refine ⟨hdistinct, fun i p => hdistinct.positionOf?_eq_some_iff, ?_,
    selectIndices_selectedIndices hdistinct⟩
  intro indices
  obtain ⟨b, hselect, hcatalog, hmode, hfound⟩ := a.exists_selectIndices indices
  refine ⟨_, b, hselect, indices.ascending.filter _, fun i => mem_unknown_iff, ?_, hmode⟩
  intro i
  rw [mem_selectedIndices_of_found hdistinct hcatalog hfound, mem_unknown_iff]
  refine and_congr_right fun hi => ?_
  -- an index is given back or belongs to a monitor
  constructor
  · rintro ⟨d, hd, hindex⟩ ⟨-, habsent⟩
    exact habsent d hd hindex
  · intro hknown
    by_contra hnone
    exact hknown ⟨hi, fun d hd hindex => hnone ⟨d, hd, hindex⟩⟩

end Arrangement

end Multihead
