import Multihead.Proofs.Catalog.StableSort
import Multihead.Proofs.Layout
import Multihead.Requirement

/-!
# What a catalog shows

The entries of a catalog are its monitors without their platform indices. Displays with corners of
their own have one order by corner, so the entries of their catalog do not depend on the order in
which they were reported (`entries_ofDisplays_of_perm`). Boxes, required monitors, the extent and
whatever is asked about a position are computed from the entries alone: two catalogs with the same
entries give the same answers.
-/

namespace Multihead

namespace Layout.Entry

/-- The order of the catalog, which looks at the corners. -/
def NotAfter (e f : Entry) : Prop :=
  e.rect.x < f.rect.x ∨ e.rect.x = f.rect.x ∧ e.rect.y ≤ f.rect.y

end Layout.Entry

namespace Catalog

/-- The monitors without their platform indices. -/
def entries (c : Catalog) : List Layout.Entry := c.monitors.map (·.entry)

theorem pairwise_entries (c : Catalog) : c.entries.Pairwise Layout.Entry.NotAfter :=
  List.pairwise_map.2 c.sorted

/-- Displays with corners of their own make the same entries in any order. -/
theorem entries_ofDisplays_of_perm {first second : List Display}
    (hperm : (first.map (·.entry)).Perm (second.map (·.entry)))
    (hcorners : ((first.map (·.entry)).map (·.corner)).Nodup) :
    (ofDisplays first).entries = (ofDisplays second).entries := by
  have hfirst : (ofDisplays first).entries.Perm (first.map (·.entry)) :=
    (perm_ofDisplays first).map _
  have hsecond : (ofDisplays second).entries.Perm (first.map (·.entry)) :=
    ((perm_ofDisplays second).map _).trans hperm.symm
  have hperm' := hfirst.trans hsecond.symm
  refine eq_of_perm_of_corners (pairwise_entries _) (pairwise_entries _) hperm' ?_
  exact (hfirst.map _).nodup_iff.2 hcorners

/-! ## Answers from the entries -/

theorem map_monitor {α : Type} (c : Catalog) (f : Display → α) (p : Nat) :
    (c.monitor p).map f = match (c.get? p).map f with
      | some x => .ok x
      | none => .error (.outOfRange p c.size) := by
  unfold monitor
  cases c.get? p <;> rfl

section SameEntries

variable {c c' : Catalog} (h : c.entries = c'.entries)
include h

theorem size_eq_of_entries : c.size = c'.size := by
  have hlength := congrArg List.length h
  rwa [entries, entries, List.length_map, List.length_map] at hlength

theorem map_get?_eq_of_entries {α : Type} (f : Layout.Entry → α) (p : Nat) :
    (c.get? p).map (f ·.entry) = (c'.get? p).map (f ·.entry) := by
  have hget := congrArg (fun l : List Layout.Entry => l[p]?.map f) h
  simp only [entries, List.getElem?_map, Option.map_map] at hget
  exact hget

theorem map_monitor_eq_of_entries {α : Type} (f : Layout.Entry → α) (p : Nat) :
    (c.monitor p).map (f ·.entry) = (c'.monitor p).map (f ·.entry) := by
  rw [map_monitor, map_monitor, map_get?_eq_of_entries h f, size_eq_of_entries h]

theorem rect_eq_of_entries (p : Nat) : c.rect p = c'.rect p :=
  map_monitor_eq_of_entries h (·.rect) p

theorem description_eq_of_entries (p : Nat) : c.description p = c'.description p :=
  map_monitor_eq_of_entries h (fun e => e.rect.describe e.name) p

theorem descriptions_eq_of_entries (positions : List Nat) :
    (positions.filterMap c.get?).map (·.description) =
      (positions.filterMap c'.get?).map (·.description) := by
  rw [List.map_filterMap, List.map_filterMap]
  congr 1
  funext p
  exact map_get?_eq_of_entries h (fun e => e.rect.describe e.name) p

theorem extent_eq_of_entries : c.extent = c'.extent := by
  have hedges (f : Rect → Int32) :
      c.monitors.map (fun d => f d.rect) = c'.monitors.map (fun d => f d.rect) := by
    have hmap := congrArg (List.map fun e : Layout.Entry => f e.rect) h
    simp only [entries, List.map_map] at hmap
    exact hmap
  unfold extent
  rw [hedges Rect.right, hedges Rect.bottom]

theorem ofSet_eq_of_entries (positions : SortedSet Nat) :
    BoundingBox.ofSet c positions = BoundingBox.ofSet c' positions := by
  have hmembers : BoundingBox.members c positions = BoundingBox.members c' positions := by
    unfold BoundingBox.members
    congr 1
    funext p
    exact map_get?_eq_of_entries h (fun e => (p, e.rect)) p
  unfold BoundingBox.ofSet
  rw [hmembers]

theorem overlaps_eq_of_entries (box : BoundingBox) (p : Nat) :
    c.overlaps box p = c'.overlaps box p := by
  have hany := congrArg (Option.any id) (map_get?_eq_of_entries h (fun e => box.overlaps e.rect) p)
  rwa [Option.any_map, Option.any_map] at hany

theorem required_eq_of_entries (selected : SortedSet Nat) :
    c.required selected = c'.required selected := by
  unfold required
  simp only [ofSet_eq_of_entries h, size_eq_of_entries h, overlaps_eq_of_entries h]

end SameEntries

end Catalog

end Multihead
