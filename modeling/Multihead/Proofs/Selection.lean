import Mathlib
import Multihead.Selection

/-!
# Selections as sets

The view of a selection is the set of its positions (`toSet`), and each request is described by what
it does to that set. A request for a position beyond the monitors is refused and gives no selection
to go on with (`set_of_le`, `toggle_of_le`).
-/

namespace Multihead.Selection

variable {count position : Nat}

/-- The selected positions as a set. -/
def toSet (s : Selection count) : Set Nat := {p | p ∈ s.positions}

theorem mem_toSet {s : Selection count} {p : Nat} : p ∈ s.toSet ↔ p ∈ s.positions := Iff.rfl

theorem toSet_unselected (count : Nat) : (unselected count).toSet = ∅ := by
  ext p
  simp [mem_toSet, unselected]

theorem set_of_le (s : Selection count) (selected : Bool) (h : count ≤ position) :
    s.set position selected = .error (.outOfRange position count) := by
  simp [set, Nat.not_lt.2 h]

theorem set_of_lt (s : Selection count) (selected : Bool) (h : position < count) :
    ∃ t, s.set position selected = .ok t ∧
      t.toSet = if selected then insert position s.toSet else s.toSet \ {position} := by
  refine ⟨if selected then s.add position h else s.remove position, by simp [set, h], ?_⟩
  cases selected with
  | true =>
    ext p
    simp [mem_toSet, add]
  | false =>
    ext p
    simp [mem_toSet, remove]

theorem toggle_of_le (s : Selection count) (h : count ≤ position) :
    s.toggle position = .error (.outOfRange position count) := by
  simp [toggle, contains, Nat.not_lt.2 h, bind, Except.bind]

theorem toggle_of_lt (s : Selection count) (h : position < count) :
    ∃ t, s.toggle position = .ok (decide (position ∉ s.positions), t) ∧
      t.toSet = symmDiff s.toSet {position} := by
  obtain ⟨t, ht, hset⟩ := s.set_of_lt (decide (position ∉ s.positions)) h
  refine ⟨t, ?_, ?_⟩
  · have hcontains : s.contains position = .ok (decide (position ∈ s.positions)) := if_pos h
    simp only [toggle, hcontains, bind, Except.bind, ← decide_not, ht]
    rfl
  · rw [hset]
    ext p
    by_cases hp : p = position
    · subst hp
      by_cases hmem : p ∈ s.positions <;> simp [hmem, Set.mem_symmDiff, mem_toSet]
    · by_cases hmem : position ∈ s.positions <;> simp [hmem, hp, Set.mem_symmDiff, mem_toSet]

theorem ofPositions_of_forall {positions : SortedSet Nat} (h : ∀ p ∈ positions, p < count) :
    ofPositions count positions = .ok ⟨positions, h⟩ :=
  dif_pos h

/-! ## Written positions -/

variable {written : SortedSet Int}

theorem mem_applied_restore {p : Nat} :
    p ∈ (restore count written).value.1.applied ↔ (p : Int) ∈ written ∧ p < count := by
  simp only [restore, SortedSet.mem_ofList, List.mem_map, List.mem_filter, Bool.and_eq_true,
    decide_eq_true_eq, SortedSet.mem_toList]
  constructor
  · rintro ⟨i, ⟨hi, hnonneg, hlt⟩, rfl⟩
    rw [Int.toNat_of_nonneg hnonneg]
    exact ⟨hi, by omega⟩
  · rintro ⟨hp, hlt⟩
    exact ⟨p, ⟨hp, by omega, by omega⟩, by omega⟩

theorem mem_rejected_restore {i : Int} :
    i ∈ (restore count written).value.1.rejected ↔ i ∈ written ∧ ¬ (0 ≤ i ∧ i < count) := by
  simp only [restore, List.mem_filter, SortedSet.mem_toList, Bool.not_eq_true',
    ← Bool.not_eq_true, Bool.and_eq_true, decide_eq_true_eq]

end Multihead.Selection
