import Multihead.Catalog
import Multihead.SortedSet

/-!
# Positions and platform indices

A catalog goes from left to right (`left_le_left`). Its monitors have platform indices of their own,
and a look-up by platform index finds the first position that has it. Where no two monitors share an
index, that is the only position, and the look-up is exact both ways
(`DistinctIndices.positionOf?_eq_some_iff`).
-/

namespace Multihead.Catalog

variable {c : Catalog} {p q : Nat} {d e : Display} {i : UInt32}

theorem exists_get?_of_lt (h : p < c.size) : ∃ d, c.get? p = some d := by
  have hsome : (c.get? p).isSome := (isSome_get? c p).trans (decide_eq_true h)
  exact Option.isSome_iff_exists.1 hsome

theorem mem_monitors_iff : d ∈ c.monitors ↔ ∃ p, c.get? p = some d := List.mem_iff_getElem?

/-- Positions go from left to right. -/
theorem left_le_left (hpq : p ≤ q) (hd : c.get? p = some d) (he : c.get? q = some e) :
    d.rect.x.toInt ≤ e.rect.x.toInt := by
  rcases Nat.eq_or_lt_of_le hpq with rfl | hlt
  · obtain rfl := Option.some.inj (hd.symm.trans he)
    exact Int.le_refl _
  · obtain ⟨hp, rfl⟩ := get?_eq_some_iff.1 hd
    obtain ⟨hq, rfl⟩ := get?_eq_some_iff.1 he
    have hnotAfter := List.pairwise_iff_getElem.1 c.sorted p q hp hq hlt
    rw [Display.notAfter_iff] at hnotAfter
    omega

/-! ## Platform indices -/

/-- The platform indices of the monitors at some positions, in the order of the catalog. -/
def indicesAt (c : Catalog) (positions : SortedSet Nat) : List UInt32 :=
  (positions.toList.filterMap c.get?).map (·.stableIndex)

theorem mem_indicesAt {positions : SortedSet Nat} :
    i ∈ c.indicesAt positions ↔ ∃ p ∈ positions, ∃ d, c.get? p = some d ∧ d.stableIndex = i := by
  simp only [indicesAt, List.mem_map, List.mem_filterMap, SortedSet.mem_toList]
  constructor
  · rintro ⟨d, ⟨p, hp, hd⟩, hi⟩
    exact ⟨p, hp, d, hd, hi⟩
  · rintro ⟨p, hp, d, hd, hi⟩
    exact ⟨d, ⟨p, hp, hd⟩, hi⟩

theorem positionOf?_eq_none_iff :
    c.positionOf? i = none ↔ ∀ d ∈ c.monitors, d.stableIndex ≠ i := by
  simp only [positionOf?, List.findIdx?_eq_none_iff, decide_eq_false_iff_not, ne_eq]

/-- No two monitors have one platform index. -/
def DistinctIndices (c : Catalog) : Prop :=
  c.monitors.Pairwise fun d e => d.stableIndex ≠ e.stableIndex

namespace DistinctIndices

theorem position_unique (h : c.DistinctIndices) (hd : c.get? p = some d) (he : c.get? q = some e)
    (hindex : d.stableIndex = e.stableIndex) : p = q := by
  obtain ⟨hp, rfl⟩ := get?_eq_some_iff.1 hd
  obtain ⟨hq, rfl⟩ := get?_eq_some_iff.1 he
  rcases Nat.lt_trichotomy p q with hlt | heq | hgt
  · exact absurd hindex (List.pairwise_iff_getElem.1 h p q hp hq hlt)
  · exact heq
  · exact absurd hindex.symm (List.pairwise_iff_getElem.1 h q p hq hp hgt)

theorem positionOf?_eq_some_iff (h : c.DistinctIndices) :
    c.positionOf? i = some p ↔ ∃ d, c.get? p = some d ∧ d.stableIndex = i := by
  rw [Catalog.positionOf?_eq_some_iff]
  refine and_iff_left_of_imp ?_
  rintro ⟨d, hd, hi⟩ q hq e he hindex
  have hpq : q = p := h.position_unique he hd (hindex.trans hi.symm)
  omega

end DistinctIndices

end Multihead.Catalog
