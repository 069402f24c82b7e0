import Multihead.Json.Record
import Multihead.Json.Value
import Multihead.Rect

/-!
# Rectangles in JSON

A rectangle is an object with the members `x`, `y`, `width` and `height`.
-/

namespace Multihead.Rect

def members (r : Rect) : List (String × Json.Value) :=
  [("x", .integer r.x.toInt), ("y", .integer r.y.toInt),
    ("width", .integer r.width.toNat), ("height", .integer r.height.toNat)]

def toJson (r : Rect) : Json.Value := .object r.members

def fields : List (Json.Field Rect) :=
  [.of "x" .required Json.int32 fun r x => { r with x },
    .of "y" .required Json.int32 fun r y => { r with y },
    .of "width" .required Json.uint32 fun r width => { r with width },
    .of "height" .required Json.uint32 fun r height => { r with height }]

def reader : Json.Reader Rect := Json.record .zero fields

end Multihead.Rect
