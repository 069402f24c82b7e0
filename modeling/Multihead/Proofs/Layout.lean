import Mathlib.Data.List.Nodup
import Multihead.Layout

/-!
# Enumerating a layout

A layout is enumerated index by index, and each display gets the name of the first entry with its
geometry. As long as the entries have corners of their own, that name is the one that stands beside
the geometry, and a snapshot lists the entries as they are (`entries_enumerate`). Platform indices
have 32 bits, so a layout with more entries than that is enumerated up to the last index.
-/

namespace Multihead

/-- The display as a layout lists it, without its platform index. -/
def Display.entry (d : Display) : Layout.Entry := ⟨d.rect, d.name⟩

namespace Layout

/-- The top-left corner. -/
def Entry.corner (e : Entry) : Int32 × Int32 := (e.rect.x, e.rect.y)

/-- The entries that a platform index reaches: all, unless there are more than `4294967296`. The
others are passed over when the layout is enumerated. -/
def indexed (layout : Layout) : List Entry := layout.displays.take UInt32.size

variable {layout : Layout}

theorem indexed_eq_displays (h : layout.displays.length ≤ UInt32.size) :
    layout.indexed = layout.displays := List.take_of_length_le h

/-- Entries with corners of their own are told apart by their geometry. -/
theorem eq_of_rect_eq {entries : List Entry} (hcorners : (entries.map (·.corner)).Nodup)
    {e f : Entry} (he : e ∈ entries) (hf : f ∈ entries) (hrect : e.rect = f.rect) : e = f := by
  have hcorner : e.corner = f.corner := by rw [Entry.corner, Entry.corner, hrect]
  exact List.inj_on_of_nodup_map hcorners he hf hcorner

theorem nameOf_rect (hcorners : (layout.indexed.map (·.corner)).Nodup) {e : Entry}
    (he : e ∈ layout.indexed) : layout.nameOf e.rect = e.name := by
  have hindexed : layout.indexed.find? (·.rect = e.rect) = some e := by
    cases hfind : layout.indexed.find? (·.rect = e.rect) with
    | none => simpa using List.find?_eq_none.1 hfind e he
    | some f =>
      have hf : f ∈ layout.indexed := List.mem_of_find?_eq_some hfind
      have hrect : f.rect = e.rect := by simpa using List.find?_some hfind
      rw [eq_of_rect_eq hcorners hf he hrect]
  have hfirst : layout.displays.find? (·.rect = e.rect) = some e := by
    have hsplit : layout.indexed ++ layout.displays.drop UInt32.size = layout.displays :=
      List.take_append_drop _ _
    rw [← hsplit, List.find?_append, hindexed, Option.some_or]
  rw [nameOf, hfirst, Option.bind_some]

/-- The display of an entry, which stands at a place of the layout. -/
def displayOf (layout : Layout) (i : Nat) (e : Entry) : Display :=
  ⟨UInt32.ofNat i, e.rect, layout.nameOf e.rect⟩

/-- An index gives the entry there, if it has 32 bits. -/
theorem displayAt_source (layout : Layout) (i : Nat) :
    layout.source.displayAt i = layout.indexed[i]?.map (layout.displayOf i) := by
  have hindexed : layout.indexed[i]? = if i < UInt32.size then layout.displays[i]? else none :=
    List.getElem?_take
  have hrect : layout.source.rectAt i = layout.displays[i]?.map (·.rect) := rfl
  rw [DisplaySource.displayAt, hrect, hindexed]
  cases layout.displays[i]? with
  | none => simp
  | some e => split <;> rfl

theorem filterMap_range_getElem? {α : Type} (l : List α) (k : Nat) :
    (List.range k).filterMap (l[·]?) = l.take k := by
  induction k with
  | zero => rfl
  | succ k ih =>
    rw [List.range_succ, List.filterMap_append, ih, List.take_add_one]
    cases hk : l[k]? <;> simp [hk]

theorem value_enumerate (layout : Layout) :
    layout.source.enumerate.value = layout.indexed.mapIdx layout.displayOf := by
  have hdisplayAt (i : Nat) :
      layout.source.displayAt i = (layout.indexed.mapIdx layout.displayOf)[i]? := by
    rw [displayAt_source, List.getElem?_mapIdx]
  have hlength : (layout.indexed.mapIdx layout.displayOf).length ≤ layout.source.count := by
    rw [List.length_mapIdx]
    exact List.length_take_le' _ _
  simp only [DisplaySource.enumerate, hdisplayAt]
  rw [filterMap_range_getElem?, List.take_of_length_le hlength]

theorem entries_enumerate (hcorners : (layout.indexed.map (·.corner)).Nodup) :
    layout.source.enumerate.value.map (·.entry) = layout.indexed := by
  refine List.ext_getElem? fun i => ?_
  rw [List.getElem?_map, value_enumerate, List.getElem?_mapIdx]
  cases he : layout.indexed[i]? with
  | none => rfl
  | some e =>
    have hname : layout.nameOf e.rect = e.name := nameOf_rect hcorners (List.mem_of_getElem? he)
    simp only [Option.map_some, Display.entry, displayOf, hname]

end Layout

end Multihead
