import Multihead.Layout
import Multihead.Rect.Json

/-!
# Layouts in JSON

A layout is an object with the member `displays`. Each display is an object with the members of its
rectangle and a `name`, which may be null or missing.
-/

namespace Multihead.Layout

def Entry.toJson (e : Entry) : Json.Value := .object (e.rect.members ++ [("name", .ofText? e.name)])

/-- A field of the rectangle as a field of the display. -/
def Entry.rectField (field : Json.Field Rect) : Json.Field Entry where
  name := field.name
  presence := field.presence
  read e input := do
    let (rect, rest) ← field.read e.rect input
    .ok ({ e with rect }, rest)

def Entry.fields : List (Json.Field Entry) :=
  Rect.fields.map rectField ++
    [.of "name" .optional (Json.nullable Json.text) fun e name => { e with name }]

def Entry.reader : Json.Reader Entry := Json.record ⟨.zero, none⟩ fields

def toJson (layout : Layout) : Json.Value :=
  .object [("displays", .array (layout.displays.map Entry.toJson))]

def fields : List (Json.Field Layout) :=
  [.of "displays" .required (Json.list Entry.reader) fun _ displays => ⟨displays⟩]

def reader : Json.Reader Layout := Json.record ⟨[]⟩ fields

end Multihead.Layout
