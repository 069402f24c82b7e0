import Multihead.Json.Value
import Multihead.Log.Record

/-!
# Lines of a log

A record is written on a line of its own: as text, or as a JSON object.
-/

namespace Multihead.Log

/-- The value of a field in a JSON object: numbers and flags stand for themselves. -/
def FieldValue.toJson : FieldValue → Json.Value
  | .number n => .integer n
  | .flag b => .bool b
  | .text s => .text s

/-- The width of a level in a line of text. -/
def levelWidth : Nat := 5

/-- The name of a level behind spaces that bring it to its width. -/
def Level.padded (level : Level) : String :=
  String.ofList (List.replicate (levelWidth - level.name.length) ' ') ++ level.name

def Record.textLine (timestamp : String) (r : Record) : String :=
  timestamp ++ " " ++ r.level.padded ++ " " ++ r.origin.target ++ ": " ++ r.summary ++ "\n"

def Record.toJson (timestamp : String) (r : Record) : Json.Value :=
  .object [("timestamp", .text timestamp), ("level", .text r.level.name),
    ("fields", .object (("message", .text r.message) ::
      r.fields.map fun (name, value) => (name, value.toJson))),
    ("target", .text r.origin.target)]

def Record.jsonLine (timestamp : String) (r : Record) : String :=
  (r.toJson timestamp).compactText ++ "\n"

/-- The record as a line of the given form. -/
def Record.line (json : Bool) (timestamp : String) (r : Record) : String :=
  if json then r.jsonLine timestamp else r.textLine timestamp

end Multihead.Log
