import Mathlib.Data.List.Basic
import Multihead.Proofs.Layout

/-!
# What a snapshot lists

A source is asked for every index below its count. An index that resolves gives one display, with
that index, the geometry found there and the name of that geometry (`displayAt_eq_some_iff`); one
that does not resolve gives one warning. A layout resolves all of its indices, and the name of a
display is looked up by its geometry: it is the name of the first display there that has it
(`Layout.FirstAt`). Main statement: `enumerate_exact`.
-/

namespace Multihead

namespace DisplaySource

variable {source : DisplaySource} {i : Nat} {d : Display}

/-! ## Sources -/

theorem displayAt_eq_some_iff :
    source.displayAt i = some d ↔
      d.stableIndex.toNat = i ∧ source.rectAt i = some d.rect ∧ d.name = source.nameOf d.rect := by
  unfold displayAt
  cases hrect : source.rectAt i with
  | none => simp
  | some r =>
    simp only [Option.bind_eq_bind, Option.bind_some, Option.some.injEq]
    constructor
    · intro h
      split at h
      · next hlt =>
        obtain rfl := Option.some.inj h
        exact ⟨UInt32.toNat_ofNat_of_lt' hlt, rfl, rfl⟩
      · cases h
    · rintro ⟨rfl, rfl, hname⟩
      rw [if_pos d.stableIndex.toNat_lt, UInt32.ofNat_toNat, ← hname]

theorem mem_enumerate : d ∈ source.enumerate.value ↔
    d.stableIndex.toNat < source.count ∧ source.rectAt d.stableIndex.toNat = some d.rect ∧
      d.name = source.nameOf d.rect := by
  simp only [enumerate, List.mem_filterMap, List.mem_range, displayAt_eq_some_iff]
  constructor
  · rintro ⟨i, hi, rfl, hd⟩
    exact ⟨hi, hd⟩
  · rintro ⟨hi, hd⟩
    exact ⟨_, hi, rfl, hd⟩

/-- The indices of a snapshot ascend, whichever were passed over. -/
theorem ascending_enumerate (source : DisplaySource) :
    source.enumerate.value.Pairwise fun d e => d.stableIndex < e.stableIndex := by
  refine List.pairwise_lt_range.filterMap source.displayAt ?_
  intro i j hij d hd e he
  obtain ⟨rfl, -, -⟩ := displayAt_eq_some_iff.1 hd
  obtain ⟨rfl, -, -⟩ := displayAt_eq_some_iff.1 he
  exact UInt32.lt_iff_toNat_lt.2 hij

/-- As long as its index has 32 bits, a display is there if its geometry is. -/
theorem map_stableIndex_displayAt (h : i < UInt32.size) :
    (source.displayAt i).map (·.stableIndex.toNat) =
      Option.guard (fun i => (source.rectAt i).isSome) i := by
  unfold displayAt
  cases hrect : source.rectAt i with
  | none => simp [Option.guard, hrect]
  | some r =>
    simp only [Option.bind_eq_bind, Option.bind_some, if_pos h, Option.map_some, Option.guard,
      hrect, UInt32.toNat_ofNat_of_lt' h, Option.isSome_some, if_true]

theorem map_stableIndex_enumerate (h : source.count ≤ UInt32.size) :
    source.enumerate.value.map (·.stableIndex.toNat) =
      (List.range source.count).filter fun i => (source.rectAt i).isSome := by
  rw [enumerate, List.map_filterMap, ← List.filterMap_eq_filter]
  refine List.filterMap_congr fun i hi => ?_
  exact map_stableIndex_displayAt (Nat.lt_of_lt_of_le (List.mem_range.1 hi) h)

end DisplaySource

/-! ## Layouts -/

namespace Layout

/-- The entry at a place of the layout is the first one that has the geometry. -/
structure FirstAt (layout : Layout) (rect : Rect) (place : Nat) (entry : Entry) : Prop where
  entry_eq : layout.displays[place]? = some entry
  rect_eq : entry.rect = rect
  before : ∀ i < place, ∀ e, layout.displays[i]? = some e → e.rect ≠ rect

variable {layout : Layout} {rect : Rect} {place i : Nat} {entry e : Entry}

theorem find?_eq_some_iff : layout.displays.find? (·.rect = rect) = some entry ↔
    ∃ place, layout.FirstAt rect place entry := by
  simp only [List.find?_eq_some_iff_getElem, decide_eq_true_eq]
  constructor
  · rintro ⟨hrect, place, hlt, hentry, hbefore⟩
    refine ⟨place, List.getElem?_eq_some_iff.2 ⟨hlt, hentry⟩, hrect, ?_⟩
    intro i hi e he
    obtain ⟨hi', rfl⟩ := List.getElem?_eq_some_iff.1 he
    simpa using hbefore i hi
  · rintro ⟨place, hentry, hrect, hbefore⟩
    obtain ⟨hlt, hget⟩ := List.getElem?_eq_some_iff.1 hentry
    refine ⟨hrect, place, hlt, hget, ?_⟩
    intro i hi
    simpa using hbefore i hi _ (List.getElem?_eq_getElem (by omega))

theorem FirstAt.nameOf_eq (h : layout.FirstAt rect place entry) :
    layout.nameOf rect = entry.name := by
  rw [nameOf, find?_eq_some_iff.2 ⟨place, h⟩, Option.bind_some]

/-- A geometry that occurs has a first place. -/
theorem exists_firstAt (he : layout.displays[i]? = some e) :
    ∃ place first, layout.FirstAt e.rect place first := by
  have hsome : (layout.displays.find? (·.rect = e.rect)).isSome :=
    List.find?_isSome.2 ⟨e, List.mem_of_getElem? he, decide_eq_true rfl⟩
  obtain ⟨first, hfirst⟩ := Option.isSome_iff_exists.1 hsome
  obtain ⟨place, hplace⟩ := find?_eq_some_iff.1 hfirst
  exact ⟨place, first, hplace⟩

theorem getElem?_enumerate {d : Display} (h : layout.source.enumerate.value[i]? = some d) :
    d.stableIndex.toNat = i ∧ ∃ e, layout.displays[i]? = some e ∧ d.rect = e.rect ∧
      d.name = layout.nameOf e.rect := by
  rw [value_enumerate, List.getElem?_mapIdx, indexed, List.getElem?_take] at h
  split at h
  · next hlt =>
    obtain ⟨e, he, rfl⟩ := Option.map_eq_some_iff.1 h
    exact ⟨UInt32.toNat_ofNat_of_lt' hlt, e, he, rfl, rfl⟩
  · cases h

theorem records_enumerate (layout : Layout) : layout.source.enumerate.records = [] := by
  simp only [DisplaySource.enumerate, source, List.map_eq_nil_iff, List.filter_eq_nil_iff,
    List.mem_range]
  intro i hi
  simp [hi]

theorem entries_enumerate_ofRects (rects : List Rect) :
    (ofRects rects).source.enumerate.value.map (·.entry) =
      (rects.take UInt32.size).map (⟨·, none⟩) := by
  have hname (r : Rect) : (ofRects rects).nameOf r = none := by
    refine Option.bind_eq_none_iff.2 fun e he => ?_
    obtain ⟨r, -, rfl⟩ := List.mem_map.1 (List.mem_of_find?_eq_some he)
    rfl
  refine List.ext_getElem? fun i => ?_
  rw [List.getElem?_map, value_enumerate, List.getElem?_mapIdx, indexed, ofRects, ← List.map_take,
    List.getElem?_map]
  cases (rects.take UInt32.size)[i]? with
  | none => rfl
  | some r =>
    have hnone : (⟨rects.map (⟨·, none⟩)⟩ : Layout).nameOf r = none := hname r
    simp only [Option.map_some, Display.entry, displayOf, hnone]

end Layout

/-- Enumerating displays. Of any source, the snapshot ascends by index, each of its displays has the
geometry that the source gives for its index and the name that it gives for this geometry, and there
is one warning for each index below the count that does not resolve, which names the index; they are
in order, and nothing else is recorded. As long as no index needs more than 32 bits, the indices
listed are just those below the count that resolve. A layout gives one display for each of its
entries, as far as their indices have 32 bits, and no warning: the display with index `i` has the
geometry of the `i`-th entry and the name of the first entry with that geometry, which is its own
name if no earlier entry has it. The layout made of some rectangles gives these in order and without
names. -/
theorem DisplaySource.enumerate_exact :
    (∀ source : DisplaySource,
      let snapshot := source.enumerate
      snapshot.value.Pairwise (fun d e => d.stableIndex < e.stableIndex) ∧
        (∀ d ∈ snapshot.value, source.rectAt d.stableIndex.toNat = some d.rect ∧
          d.name = source.nameOf d.rect) ∧
        (source.count ≤ 4294967296 → snapshot.value.map (·.stableIndex.toNat) =
          (List.range source.count).filter fun i => (source.rectAt i).isSome) ∧
        ∃ unresolved : List Nat,
          snapshot.records = unresolved.map (fun i =>
            ⟨.warn, .displaySource, "Display vanished during enumeration",
              [("index", .number i)]⟩) ∧
          unresolved.Pairwise (· < ·) ∧
          ∀ i, i ∈ unresolved ↔ i < source.count ∧ source.rectAt i = none) ∧
    (∀ layout : Layout,
      let snapshot := layout.source.enumerate
      snapshot.records = [] ∧
        snapshot.value.length = min 4294967296 layout.displays.length ∧
        ∀ (i : Nat) (d : Display), snapshot.value[i]? = some d → d.stableIndex.toNat = i ∧
          ∃ e, layout.displays[i]? = some e ∧ d.rect = e.rect ∧
            (∃ place first, layout.FirstAt e.rect place first ∧ d.name = first.name) ∧
            ((∀ j < i, ∀ f, layout.displays[j]? = some f → f.rect ≠ e.rect) →
              d.name = e.name)) ∧
    ∀ rects : List Rect,
      (Layout.ofRects rects).source.enumerate.value.map (fun d => (d.rect, d.name)) =
        (rects.take 4294967296).map (·, none) := by
  refine ⟨fun source => ⟨source.ascending_enumerate, ?_, map_stableIndex_enumerate, ?_⟩,
    fun layout => ⟨layout.records_enumerate, ?_, ?_⟩, fun rects => ?_⟩
  · intro d hd
    exact (mem_enumerate.1 hd).2
  · refine ⟨_, rfl, List.pairwise_lt_range.filter _, fun i => ?_⟩
    rw [List.mem_filter, List.mem_range, Option.isNone_iff_eq_none]
  · rw [Layout.value_enumerate, List.length_mapIdx]
    exact List.length_take
  · intro i d hd
    obtain ⟨hindex, e, he, hrect, hname⟩ := Layout.getElem?_enumerate hd
    refine ⟨hindex, e, he, hrect, ?_, fun hbefore => ?_⟩
    · obtain ⟨place, first, hfirst⟩ := Layout.exists_firstAt he
      exact ⟨place, first, hfirst, hname.trans hfirst.nameOf_eq⟩
    · have hfirst : layout.FirstAt e.rect i e := ⟨he, rfl, hbefore⟩
      exact hname.trans hfirst.nameOf_eq
  · have hentries := congrArg (List.map fun e : Layout.Entry => (e.rect, e.name))
      (Layout.entries_enumerate_ofRects rects)
    rwa [List.map_map, List.map_map] at hentries

-- the last two displays mirror the first one, and get its name
example :
    let layout : Layout := ⟨[⟨⟨0, 0, 10, 10⟩, some "A"⟩, ⟨⟨0, 0, 10, 10⟩, some "B"⟩,
      ⟨⟨0, 0, 10, 10⟩, none⟩]⟩
    layout.source.enumerate.value.map (·.name) = [some "A", some "A", some "A"] := by decide

end Multihead
