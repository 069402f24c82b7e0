import Multihead.Display.Json
import Multihead.Layout.Json
import Multihead.Proofs.Json.Reading

/-!
# Reading geometries that were written

A rectangle is written with all its members, and so is a display of a layout, whose fields are
those of its rectangle and a name (`Accepts.rectField`). Rectangles, layouts and reported displays
are read back as they were (`reads_rect`, `reads_layout`, `reads_display`).
-/

namespace Multihead

open Json

theorem accepts_rect (r : Rect) :
    Accepts Rect.fields [] .zero r.members ["height", "width", "y", "x"] r := by
  refine .cons rfl (by decide) (Field.reads_of (reads_int32 r.x) _) ?_
  refine .cons rfl (by decide) (Field.reads_of (reads_int32 r.y) _) ?_
  refine .cons rfl (by decide) (Field.reads_of (reads_uint32 r.width) _) ?_
  exact .cons rfl (by decide) (Field.reads_of (reads_uint32 r.height) _) .nil

theorem reads_rect (r : Rect) : Reads Rect.reader r.toJson r :=
  reads_record (accepts_rect r) rfl

namespace Layout

variable {given given' : List String} {rect rect' : Rect} {members : List (String × Value)}

/-- What the fields of a rectangle accept, those of a display accept into its rectangle. -/
theorem Entry.accepts_rect (h : Accepts Rect.fields given rect members given' rect')
    (name : Option String) :
    Accepts Entry.fields given ⟨rect, name⟩ members given' ⟨rect', name⟩ := by
  induction h with
  | nil => exact .nil
  | @cons _ _ r r' _ member v _ field hfield hnew hread _ ih =>
    have hfield : Entry.fields.find? (·.name = member) = some (Entry.rectField field) := by
      rw [Entry.fields, List.find?_append, List.find?_map]
      have hsame : Rect.fields.find? ((·.name = member) ∘ Entry.rectField) = some field := hfield
      rw [hsame]
      rfl
    have hread : (Entry.rectField field).Reads v ⟨r, name⟩ ⟨r', name⟩ := by
      intro text rest hwritten
      simp only [Entry.rectField, hread text rest hwritten, bind, Except.bind]
    exact .cons hfield hnew hread ih

theorem reads_entry (e : Entry) : Reads Entry.reader e.toJson e := by
  have hname : Accepts Entry.fields ["height", "width", "y", "x"] ⟨e.rect, none⟩
      [("name", .ofText? e.name)] ["name", "height", "width", "y", "x"] e :=
    .cons rfl (by decide) (Field.reads_of (reads_ofText? e.name) _) .nil
  exact reads_record ((Entry.accepts_rect (Multihead.accepts_rect e.rect) none).append hname) rfl

theorem reads_layout (layout : Layout) : Reads Layout.reader layout.toJson layout := by
  have hdisplays : List.Forall₂ (Reads Entry.reader) (layout.displays.map Entry.toJson)
      layout.displays := by
    rw [List.forall₂_map_left_iff, List.forall₂_same]
    exact fun e _ => reads_entry e
  have haccepts : Accepts Layout.fields [] ⟨[]⟩
      [("displays", .array (layout.displays.map Entry.toJson))] ["displays"] layout :=
    .cons rfl (by decide) (Field.reads_of (reads_list hdisplays) _) .nil
  exact reads_record haccepts rfl

end Layout

theorem reads_display (d : Display) : Reads Display.reader d.toJson d := by
  have haccepts : Accepts Display.fields [] ⟨0, .zero, none⟩
      [("stable_index", .integer d.stableIndex.toNat), ("rect", d.rect.toJson),
        ("name", .ofText? d.name)] ["name", "rect", "stable_index"] d := by
    refine .cons rfl (by decide) (Field.reads_of (reads_uint32 d.stableIndex) _) ?_
    refine .cons rfl (by decide) (Field.reads_of (reads_rect d.rect) _) ?_
    exact .cons rfl (by decide) (Field.reads_of (reads_ofText? d.name) _) .nil
  exact reads_record haccepts rfl

end Multihead
