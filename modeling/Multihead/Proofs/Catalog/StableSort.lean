import Mathlib.Data.List.Nodup
import Multihead.Catalog

/-!
# The catalog order

A catalog holds the displays that it was built of in ascending order of their corners, and displays
with one corner in the order in which they came (`InCatalogOrder`). A list in that order is settled
by the displays with each corner (`eq_of_filter_corner_eq`), so there is only one. Displays with
corners of their own make one catalog in any order, and the monitors of a catalog make it again
(`build_iff_inCatalogOrder`).
-/

namespace Multihead

/-! ## Corners -/

/-- Rectangles of which neither comes after the other have one corner. -/
theorem Rect.corner_eq {r s : Rect} (hrs : r.x < s.x ∨ r.x = s.x ∧ r.y ≤ s.y)
    (hsr : s.x < r.x ∨ s.x = r.x ∧ s.y ≤ r.y) : (r.x, r.y) = (s.x, s.y) := by
  simp only [Int32.lt_iff_toInt_lt, Int32.le_iff_toInt_le, ← Int32.toInt_inj] at hrs hsr
  have hx : r.x.toInt = s.x.toInt := by omega
  have hy : r.y.toInt = s.y.toInt := by omega
  rw [Int32.toInt_inj.1 hx, Int32.toInt_inj.1 hy]

/-- Rectangles with corners of their own can be put in order in one way only, whatever they are the
rectangles of. -/
theorem eq_of_perm_of_corners {α : Type} {rect : α → Rect} {l l' : List α}
    (hl : l.Pairwise fun a b =>
      (rect a).x < (rect b).x ∨ (rect a).x = (rect b).x ∧ (rect a).y ≤ (rect b).y)
    (hl' : l'.Pairwise fun a b =>
      (rect a).x < (rect b).x ∨ (rect a).x = (rect b).x ∧ (rect a).y ≤ (rect b).y)
    (hperm : l.Perm l') (hcorners : (l.map fun a => ((rect a).x, (rect a).y)).Nodup) : l = l' := by
  refine List.Perm.eq_of_pairwise ?_ hl hl' hperm
  intro a b ha hb hab hba
  exact List.inj_on_of_nodup_map hcorners ha (hperm.mem_iff.2 hb) (Rect.corner_eq hab hba)

namespace Display

/-- The top-left corner, by which the catalog is ordered. -/
def corner (d : Display) : Int32 × Int32 := (d.rect.x, d.rect.y)

variable {d e : Display}

theorem notAfter_of_corner_eq (h : d.corner = e.corner) : d.NotAfter e := by
  obtain ⟨hx, hy⟩ := Prod.mk.inj h
  exact .inr ⟨hx, Int32.le_of_eq hy⟩

theorem NotAfter.corner_eq (hde : d.NotAfter e) (hed : e.NotAfter d) : d.corner = e.corner :=
  Rect.corner_eq hde hed

end Display

namespace Catalog

/-- Whether a list holds the given displays in catalog order: ascending by their corners, as pairs
of signed numbers, and with those of one corner in the order in which they were given. -/
structure InCatalogOrder (displays monitors : List Display) : Prop where
  perm : monitors.Perm displays
  ascending : monitors.Pairwise fun d e =>
    d.rect.x.toInt < e.rect.x.toInt ∨
      d.rect.x.toInt = e.rect.x.toInt ∧ d.rect.y.toInt ≤ e.rect.y.toInt
  stable : ∀ corner, monitors.filter (·.corner = corner) = displays.filter (·.corner = corner)

variable {displays others l l' : List Display} {c c' : Catalog}

theorem eq_of_monitors_eq (h : c.monitors = c'.monitors) : c = c' := by
  cases c
  cases c'
  rw [mk.injEq]
  exact h

/-! ## One order -/

theorem mem_of_filter_corner_eq
    (h : ∀ corner, l.filter (·.corner = corner) = l'.filter (·.corner = corner)) {d : Display}
    (hd : d ∈ l) : d ∈ l' := by
  have hfilter : d ∈ l.filter (·.corner = d.corner) := List.mem_filter.2 ⟨hd, decide_eq_true rfl⟩
  rw [h d.corner] at hfilter
  exact (List.mem_filter.1 hfilter).1

/-- The first of a list in order is not after any of its members. -/
theorem notAfter_of_mem_cons {d e : Display} (hl : (d :: l).Pairwise Display.NotAfter)
    (he : e ∈ d :: l) : d.NotAfter e := by
  rcases List.mem_cons.1 he with rfl | he
  · exact Display.notAfter_of_corner_eq rfl
  · exact (List.pairwise_cons.1 hl).1 e he

/-- Two lists in order that agree on the displays with each corner are one list. -/
theorem eq_of_filter_corner_eq (hl : l.Pairwise Display.NotAfter)
    (hl' : l'.Pairwise Display.NotAfter)
    (h : ∀ corner, l.filter (·.corner = corner) = l'.filter (·.corner = corner)) : l = l' := by
  induction l generalizing l' with
  | nil =>
    refine (List.eq_nil_iff_forall_not_mem.2 fun d hd => ?_).symm
    exact List.not_mem_nil (mem_of_filter_corner_eq (fun corner => (h corner).symm) hd)
  | cons d l ih =>
    have hd : d ∈ l' := mem_of_filter_corner_eq h List.mem_cons_self
    cases l' with
    | nil => cases hd
    | cons e l' =>
      have he : e ∈ d :: l :=
        mem_of_filter_corner_eq (fun corner => (h corner).symm) List.mem_cons_self
      -- each head stands in the other list, so both have one corner and are the first there
      have hcorner : d.corner = e.corner :=
        (notAfter_of_mem_cons hl he).corner_eq (notAfter_of_mem_cons hl' hd)
      obtain rfl : d = e := by
        have hfirst := h d.corner
        simp only [List.filter_cons, hcorner, decide_true, if_true] at hfirst
        exact (List.cons.inj hfirst).1
      refine congrArg (d :: ·) (ih hl.of_cons hl'.of_cons fun corner => ?_)
      have hrest := h corner
      rw [List.filter_cons, List.filter_cons] at hrest
      split at hrest
      · exact (List.cons.inj hrest).2
      · exact hrest

theorem InCatalogOrder.pairwise (h : InCatalogOrder displays l) : l.Pairwise Display.NotAfter :=
  h.ascending.imp Display.notAfter_iff.2

theorem InCatalogOrder.unique (hl : InCatalogOrder displays l)
    (hl' : InCatalogOrder displays l') : l = l' :=
  eq_of_filter_corner_eq hl.pairwise hl'.pairwise fun corner =>
    (hl.stable corner).trans (hl'.stable corner).symm

/-! ## Building -/

/-- A display is put before those with its corner, and only ever passes others. -/
theorem filter_place (d : Display) (l : List Display) (corner : Int32 × Int32) :
    (place d l).filter (·.corner = corner) = (d :: l).filter (·.corner = corner) := by
  induction l with
  | nil => rfl
  | cons e l ih =>
    unfold place
    split
    · rfl
    · next hafter =>
      have hne : d.corner ≠ e.corner := fun h => hafter (Display.notAfter_of_corner_eq h)
      rw [List.filter_cons, ih]
      by_cases he : e.corner = corner
      · have hd : d.corner ≠ corner := he ▸ hne
        simp [he, hd]
      · simp [List.filter_cons, he]

theorem filter_ofDisplays (displays : List Display) (corner : Int32 × Int32) :
    (ofDisplays displays).monitors.filter (·.corner = corner) =
      displays.filter (·.corner = corner) := by
  induction displays with
  | nil => rfl
  | cons d rest ih =>
    change (place d (ofDisplays rest).monitors).filter _ = _
    rw [filter_place, List.filter_cons, List.filter_cons, ih]

theorem inCatalogOrder_ofDisplays (displays : List Display) :
    InCatalogOrder displays (ofDisplays displays).monitors where
  perm := perm_ofDisplays displays
  ascending := (ofDisplays displays).sorted.imp Display.notAfter_iff.1
  stable := filter_ofDisplays displays

theorem ofDisplays_of_perm (hperm : others.Perm displays)
    (hcorners : (displays.map (·.corner)).Nodup) : ofDisplays others = ofDisplays displays := by
  have hothers : (ofDisplays others).monitors.Perm displays := (perm_ofDisplays others).trans hperm
  refine eq_of_monitors_eq (eq_of_perm_of_corners (ofDisplays others).sorted
    (ofDisplays displays).sorted (hothers.trans (perm_ofDisplays displays).symm) ?_)
  exact (hothers.map _).nodup_iff.2 hcorners

theorem ofDisplays_monitors (c : Catalog) : ofDisplays c.monitors = c := by
  have horder : InCatalogOrder c.monitors c.monitors :=
    ⟨.refl _, c.sorted.imp Display.notAfter_iff.1, fun _ => rfl⟩
  exact eq_of_monitors_eq ((inCatalogOrder_ofDisplays c.monitors).unique horder)

theorem build_eq_error_iff : build displays = .error .emptyTopology ↔ displays = [] := by
  cases displays with
  | nil => exact iff_of_true rfl rfl
  | cons d rest => exact iff_of_false nofun nofun

theorem exists_build_of_ne_nil (h : displays ≠ []) :
    ∃ built, build displays = .ok built ∧ built.value = ofDisplays displays := by
  cases displays with
  | nil => exact absurd rfl h
  | cons d rest => exact ⟨_, rfl, rfl⟩

/-- What is built is settled by the catalog and the number of displays. -/
theorem build_congr (hlength : others.length = displays.length)
    (hcatalog : ofDisplays others = ofDisplays displays) : build others = build displays := by
  have hempty : others.isEmpty = displays.isEmpty := by
    rw [Bool.eq_iff_iff, List.isEmpty_iff_length_eq_zero, List.isEmpty_iff_length_eq_zero, hlength]
  rw [build, build, hlength, hcatalog, hempty]

/-- Building a catalog. No displays are refused; any others give a catalog whose monitors are just
those displays in catalog order, and there is only one list in that order. Displays with corners of
their own build the same in any order, and the monitors of what was built build it again. -/
theorem build_iff_inCatalogOrder (displays : List Display) :
    (build displays = .error .emptyTopology ↔ displays = []) ∧
      (displays ≠ [] → ∃ built, build displays = .ok built ∧
        ∀ l, l = built.value.monitors ↔ InCatalogOrder displays l) ∧
      (∀ others, others.Perm displays → (displays.map (·.corner)).Nodup →
        build others = build displays) ∧
      ∀ built, build displays = .ok built → build built.value.monitors = .ok built := by
  refine ⟨build_eq_error_iff, ?_, ?_, ?_⟩
  · intro hne
    obtain ⟨built, hbuild, hvalue⟩ := exists_build_of_ne_nil hne
    refine ⟨built, hbuild, fun l => ?_⟩
    rw [hvalue]
    constructor
    · rintro rfl
      exact inCatalogOrder_ofDisplays displays
    · intro hl
      exact hl.unique (inCatalogOrder_ofDisplays displays)
  · intro others hperm hcorners
    exact build_congr hperm.length_eq (ofDisplays_of_perm hperm hcorners)
  · intro built hbuild
    have hne : displays ≠ [] := by
      rintro rfl
      cases hbuild
    obtain ⟨_, hbuild', hvalue⟩ := exists_build_of_ne_nil hne
    obtain rfl := Except.ok.inj (hbuild.symm.trans hbuild')
    rw [← hbuild, hvalue]
    exact build_congr (perm_ofDisplays displays).length_eq (ofDisplays_monitors _)

/-- Three displays in a column, two of them at one corner, which lies left of the origin. -/
example :
    let high : Display := ⟨0, ⟨-100, 50, 100, 100⟩, some "A"⟩
    let mirror : Display := ⟨1, ⟨-100, 50, 80, 60⟩, some "B"⟩
    let low : Display := ⟨2, ⟨-100, -50, 100, 100⟩, none⟩
    (ofDisplays [high, mirror, low]).monitors = [low, high, mirror] ∧
      (ofDisplays [mirror, high, low]).monitors = [low, mirror, high] := by decide

end Catalog

end Multihead
