import Multihead.Proofs.Arrangement.Replay
import Multihead.Proofs.Catalog.Entries

/-!
# The order of enumeration

A platform may report the same displays in another order. Two arrangements look alike if their
catalogs have the same entries, their modes agree and the same positions are selected (`Alike`);
nothing is said about platform indices. Whatever does not ask for a platform index is then answered
alike (`Alike.sameAnswers`), and a call that goes by positions gets the same reply and leads to
arrangements that look alike (`Alike.perform`). So runs over layouts with permuted entries cannot be
told apart, as long as every entry has a corner of its own (`run_of_permuted_entries`).
-/

namespace Multihead.Arrangement

open SelectionText

/-- The two arrangements differ in nothing but the platform indices of their monitors. -/
structure Alike (a b : Arrangement) : Prop where
  entries : a.catalog.entries = b.catalog.entries
  mode : a.mode = b.mode
  positions : a.selection.positions = b.selection.positions

/-- The two arrangements answer every question alike that is not about platform indices. -/
structure SameAnswers (a b : Arrangement) : Prop where
  count : a.count = b.count
  mode : a.mode = b.mode
  save : a.save = b.save
  check : ∀ p, a.check p = b.check p
  selected : a.selected = b.selected
  isSelected : ∀ p, a.isSelected p = b.isSelected p
  required : a.required = b.required
  isRequired : ∀ p, a.isRequired p = b.isRequired p
  hasRequired : a.hasRequired = b.hasRequired
  active : a.active = b.active
  boundingBox : a.boundingBox = b.boundingBox
  frameBuffer : a.frameBuffer = b.frameBuffer
  width : a.width = b.width
  height : a.height = b.height
  dimensions : ∀ p, a.dimensions p = b.dimensions p
  description : ∀ p, a.description p = b.description p
  selectedDescriptions :
    a.selectedDisplays.map (·.description) = b.selectedDisplays.map (·.description)

/-- The call says which monitors it means by their positions, not by platform indices. -/
def Call.ByPosition : Call → Prop
  | .selectIndices _ => False
  | _ => True

variable {a b : Arrangement} {call : Call}

namespace Alike

/-! ## Answers -/

theorem count_eq (h : a.Alike b) : a.count = b.count := Catalog.size_eq_of_entries h.entries

theorem check_eq (h : a.Alike b) (p : Nat) : a.check p = b.check p := by
  unfold check Catalog.check
  rw [Catalog.size_eq_of_entries h.entries]

theorem selected_eq (h : a.Alike b) : a.selected = b.selected := by
  unfold selected
  rw [h.mode, h.count_eq, h.positions]

theorem required_eq (h : a.Alike b) : a.required = b.required := by
  unfold required
  rw [h.selected_eq, Catalog.required_eq_of_entries h.entries]

theorem active_eq (h : a.Alike b) : a.active = b.active := by
  unfold active
  rw [h.selected_eq, h.required_eq]

theorem boundingBox_eq (h : a.Alike b) : a.boundingBox = b.boundingBox := by
  unfold boundingBox
  rw [h.mode, h.active_eq, Catalog.ofSet_eq_of_entries h.entries]

theorem sameAnswers (h : a.Alike b) : a.SameAnswers b where
  count := h.count_eq
  mode := h.mode
  save := by rw [save, save, Selection.text, Selection.text, h.positions]
  check := h.check_eq
  selected := h.selected_eq
  isSelected p := by
    unfold isSelected Selection.contains
    rw [h.mode, h.positions, Catalog.size_eq_of_entries h.entries]
  required := h.required_eq
  isRequired p := by
    have hcheck : a.catalog.check p = b.catalog.check p := h.check_eq p
    unfold isRequired Catalog.isRequired
    rw [hcheck, h.selected_eq, Catalog.required_eq_of_entries h.entries]
  hasRequired := by rw [hasRequired, hasRequired, h.required_eq]
  active := h.active_eq
  boundingBox := h.boundingBox_eq
  frameBuffer := by rw [frameBuffer, frameBuffer, h.boundingBox_eq]
  width := congrArg Prod.fst (Catalog.extent_eq_of_entries h.entries)
  height := congrArg Prod.snd (Catalog.extent_eq_of_entries h.entries)
  dimensions := Catalog.rect_eq_of_entries h.entries
  description := Catalog.description_eq_of_entries h.entries
  selectedDescriptions := by
    unfold selectedDisplays
    rw [h.selected_eq, Catalog.descriptions_eq_of_entries h.entries]

/-! ## Calls -/

/-- What a text does is reported from the number of monitors and the selected positions. -/
theorem report_apply_eq (hcount : a.count = b.count)
    (hpositions : a.selection.positions = b.selection.positions) (said : SelectionText) :
    (a.apply said).value.1 = (b.apply said).value.1 := by
  cases said with
  | all => exact congrArg (RestoreReport.mk · []) hpositions
  | positions written =>
    change (Selection.restore a.count written).value.1 = (Selection.restore b.count written).value.1
    rw [hcount]

theorem reply_perform (h : a.Alike b) (hcall : call.ByPosition) :
    (a.perform call).value.1 = (b.perform call).value.1 := by
  have hcount := h.count_eq
  cases call with
  | set position selected =>
    rcases Nat.lt_or_ge position a.count with hlt | hle
    · obtain ⟨t, ha, -⟩ := a.perform_set_of_lt selected hlt
      obtain ⟨u, hb, -⟩ := b.perform_set_of_lt selected (hcount ▸ hlt)
      rw [ha, hb]
    · rw [a.perform_set_of_le selected hle, b.perform_set_of_le selected (hcount ▸ hle), hcount]
  | toggle position =>
    rcases Nat.lt_or_ge position a.count with hlt | hle
    · obtain ⟨t, ha, -⟩ := a.perform_toggle_of_lt hlt
      obtain ⟨u, hb, -⟩ := b.perform_toggle_of_lt (hcount ▸ hlt)
      rw [ha, hb, h.positions]
    · rw [a.perform_toggle_of_le hle, b.perform_toggle_of_le (hcount ▸ hle), hcount]
  | clear => rfl
  | setMode mode => rfl
  | applyText text =>
    rw [perform_applyText, perform_applyText, restoring, restoring]
    cases parse text with
    | error e => rfl
    | ok said => exact congrArg Reply.restored (report_apply_eq hcount h.positions said)
  | applySettings settings =>
    rw [perform_applySettings, perform_applySettings, restoring, restoring]
    cases parse settings.selection with
    | error e => rfl
    | ok said =>
      refine congrArg Reply.restored (report_apply_eq ?_ ?_ said)
      · exact hcount
      · exact h.positions
  | selectIndices indices => exact hcall.elim

end Alike

/-- A call by positions means the same for any catalog with as many monitors. -/
theorem Call.ByPosition.edit_eq {c c' : Catalog} (hcall : call.ByPosition) (hsize : c.size = c'.size)
    (picked : Set Nat) : call.edit c picked = call.edit c' picked := by
  cases call with
  | set position selected => cases selected <;> rfl
  | toggle position => rfl
  | clear => rfl
  | setMode mode => rfl
  | applyText text => rw [Call.edit, Call.edit, hsize]
  | applySettings settings => rw [Call.edit, Call.edit, hsize]
  | selectIndices indices => exact hcall.elim

theorem positions_eq_of_picked_eq (h : a.picked = b.picked) :
    a.selection.positions = b.selection.positions := by
  refine SortedSet.ext fun p => ?_
  rw [← Selection.mem_toSet, ← Selection.mem_toSet]
  exact Set.ext_iff.1 h p

theorem Alike.picked_eq (h : a.Alike b) : a.picked = b.picked := by
  ext p
  rw [picked, picked, Selection.mem_toSet, Selection.mem_toSet, h.positions]

theorem Alike.perform (h : a.Alike b) (hcall : call.ByPosition) :
    (a.perform call).value.2.Alike (b.perform call).value.2 := by
  obtain ⟨ha, ha'⟩ := a.perform_effect call
  obtain ⟨hb, hb'⟩ := b.perform_effect call
  rw [← h.count_eq] at hb hb'
  by_cases hunmet : call.Unmet a.count
  · rw [ha hunmet, hb hunmet]
    exact h
  · obtain ⟨hcatalogA, hmodeA, hpickedA⟩ := ha' hunmet
    obtain ⟨hcatalogB, hmodeB, hpickedB⟩ := hb' hunmet
    refine ⟨?_, ?_, positions_eq_of_picked_eq ?_⟩
    · rw [hcatalogA, hcatalogB, h.entries]
    · rw [hmodeA, hmodeB, h.mode]
    · rw [hpickedA, hpickedB, h.picked_eq, hcall.edit_eq h.count_eq]

theorem Alike.performAll (h : a.Alike b) {calls : List Call}
    (hcalls : ∀ call ∈ calls, call.ByPosition) : (a.performAll calls).Alike (b.performAll calls) := by
  induction calls generalizing a b with
  | nil => exact h
  | cons call rest ih =>
    have hstep := h.perform (hcalls call List.mem_cons_self)
    exact ih hstep fun next hnext => hcalls next (List.mem_cons_of_mem call hnext)

/-! ## Permuted layouts -/

theorem ofDisplays_start (displays : List Display) :
    let a := (ofDisplays displays).value
    a.catalog = .ofDisplays displays ∧ a.mode = .selected ∧ a.selection.positions = ∅ := by
  cases displays with
  | nil => exact ⟨rfl, rfl, rfl⟩
  | cons d rest => exact ⟨rfl, rfl, rfl⟩

theorem alike_ofSource {first second : Layout} (hentries : first.indexed.Perm second.indexed)
    (hcorners : (first.indexed.map (·.corner)).Nodup) :
    (ofSource first.source).value.Alike (ofSource second.source).value := by
  have hcorners' : (second.indexed.map (·.corner)).Nodup :=
    (hentries.map (·.corner)).nodup_iff.1 hcorners
  obtain ⟨hcatalogA, hmodeA, hpositionsA⟩ := ofDisplays_start first.source.enumerate.value
  obtain ⟨hcatalogB, hmodeB, hpositionsB⟩ := ofDisplays_start second.source.enumerate.value
  refine ⟨?_, hmodeA.trans hmodeB.symm, hpositionsA.trans hpositionsB.symm⟩
  rw [ofSource, ofSource, Logged.value_bind, Logged.value_bind, hcatalogA, hcatalogB]
  refine Catalog.entries_ofDisplays_of_perm ?_ ?_
  · rw [Layout.entries_enumerate hcorners, Layout.entries_enumerate hcorners']
    exact hentries
  · rw [Layout.entries_enumerate hcorners]
    exact hcorners

/-- The order in which a platform reports its displays is not seen. Take two layouts whose entries
are the same up to their order, each with a corner of its own, and make the same calls by positions
on the arrangements of both. After any such calls, the two answer everything alike that is not about
platform indices, and give the same reply to whatever call by positions comes next. -/
theorem run_of_permuted_entries {first second : Layout}
    (hentries : first.indexed.Perm second.indexed)
    (hcorners : (first.indexed.map (·.corner)).Nodup) {calls : List Call}
    (hcalls : ∀ call ∈ calls, call.ByPosition) :
    let a := (ofSource first.source).value.performAll calls
    let b := (ofSource second.source).value.performAll calls
    a.SameAnswers b ∧
      ∀ call : Call, call.ByPosition → (a.perform call).value.1 = (b.perform call).value.1 := by
  intro a b
  have halike : a.Alike b := (alike_ofSource hentries hcorners).performAll hcalls
  exact ⟨halike.sameAnswers, fun call hcall => halike.reply_perform hcall⟩

/-- Three monitors in a row, reported in one order and in the reverse one. The platform index of the
rightmost monitor tells which order it was, and nothing else does. -/
theorem run_of_permuted_entries_reversed :
    let middle : Layout.Entry := ⟨⟨1920, 0, 1920, 1080⟩, some "DP-1"⟩
    let left : Layout.Entry := ⟨⟨0, 0, 1920, 1080⟩, some "DP-2"⟩
    let right : Layout.Entry := ⟨⟨3840, -200, 1920, 1080⟩, none⟩
    let first : Layout := ⟨[middle, left, right]⟩
    let second : Layout := ⟨[right, left, middle]⟩
    let calls : List Call := [.applyText "1, 7", .toggle 2, .set 9 true]
    let a := (ofSource first.source).value.performAll calls
    let b := (ofSource second.source).value.performAll calls
    first.indexed.Perm second.indexed ∧ (first.indexed.map (·.corner)).Nodup ∧
      (∀ call ∈ calls, call.ByPosition) ∧ a.SameAnswers b ∧
      (a.perform (.toggle 1)).value.1 = (b.perform (.toggle 1)).value.1 ∧
      a.required = .ofList [1] ∧ a.limit .right = some 2 ∧ b.limit .right = some 0 := by
  intro middle left right first second calls a b
  have hfirst : first.indexed = first.displays := Layout.indexed_eq_displays (by decide)
  have hsecond : second.indexed = second.displays := Layout.indexed_eq_displays (by decide)
  have hentries : first.indexed.Perm second.indexed := by
    rw [hfirst, hsecond]
    decide
  have hcorners : (first.indexed.map (·.corner)).Nodup := by
    rw [hfirst]
    decide
  have hcalls : ∀ call ∈ calls, call.ByPosition := by
    intro call hcall
    simp only [calls, List.mem_cons, List.not_mem_nil, or_false] at hcall
    rcases hcall with rfl | rfl | rfl
    · trivial
    · trivial
    · trivial
  have hrun : a.SameAnswers b ∧ ∀ call : Call, call.ByPosition →
      (a.perform call).value.1 = (b.perform call).value.1 :=
    run_of_permuted_entries hentries hcorners hcalls
  have hreply := hrun.2 (.toggle 1) trivial
  exact ⟨hentries, hcorners, hcalls, hrun.1, hreply, by decide, by decide, by decide⟩

end Multihead.Arrangement
