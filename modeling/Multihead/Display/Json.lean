import Multihead.Display
import Multihead.Rect.Json

/-!
# Displays in JSON

A display is an object with the members `stable_index`, `rect` and `name`; the name may be null or
missing.
-/

namespace Multihead.Display

def toJson (d : Display) : Json.Value :=
  .object [("stable_index", .integer d.stableIndex.toNat), ("rect", d.rect.toJson),
    ("name", .ofText? d.name)]

def fields : List (Json.Field Display) :=
  [.of "stable_index" .required Json.uint32 fun d stableIndex => { d with stableIndex },
    .of "rect" .required Rect.reader fun d rect => { d with rect },
    .of "name" .optional (Json.nullable Json.text) fun d name => { d with name }]

def reader : Json.Reader Display := Json.record ⟨0, .zero, none⟩ fields

end Multihead.Display
