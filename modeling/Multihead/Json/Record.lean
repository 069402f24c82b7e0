import Multihead.Json.Scalar
import Multihead.Json.Skip

/-!
# Readers of records and lists

A record is written as an object with named members or as an array of its fields in order. In an
object the members come in any order and unknown ones are passed over; a known one may not be
repeated. What may be missing is the field's own rule.
-/

namespace Multihead.Json

/-- Where a field may be missing. -/
inductive Presence
  | required
  /-- As a member of an object. -/
  | optionalMember
  /-- As a member of an object, and at the end of an array. -/
  | optional
deriving DecidableEq, Repr

/-- A field of a record `α`: its name, where it may be missing, and a reader that puts the field's
value into a record. -/
structure Field (α : Type) where
  name : String
  presence : Presence
  read : α → Reader α

/-- A field that is read by `reader` and put into a record by `put`. -/
def Field.of {α β : Type} (name : String) (presence : Presence) (reader : Reader β)
    (put : α → β → α) : Field α where
  name := name
  presence := presence
  read record input := do
    let (value, rest) ← reader input
    .ok (put record value, rest)

section Members

variable {α : Type} (fields : List (Field α))

/-- Whether no field is missing when those with the given names were read. -/
def complete (given : List String) : Bool :=
  fields.all fun field => field.presence ≠ .required || field.name ∈ given

/-- Read the member whose opening mark was taken. -/
def readMember (given : List String) (record : α) : Reader (List String × α) := fun input => do
  let (name, rest) ← textBody input
  match fields.find? (·.name = name) with
  | some field =>
    if name ∈ given then .error .mismatched
    else
      let (_, rest) ← token ':' rest
      let (record, rest) ← field.read record rest
      .ok ((name :: given, record), rest)
  | none =>
    let (_, rest) ← token ':' rest
    let (_, rest) ← skip rest
    .ok ((given, record), rest)

/-- Read the members after the first one and the end of the object. Every round takes a
character. -/
def readMembers : Nat → List String → α → Reader α
  | 0, _, _, _ => .error .truncated
  | rounds + 1, given, record, input =>
    match skipSpace input with
    | [] => .error .truncated
    | '\x7d' :: rest => if complete fields given then .ok (record, rest) else .error .mismatched
    | ',' :: rest =>
      match skipSpace rest with
      | [] => .error .truncated
      | '"' :: rest => do
        let ((given, record), rest) ← readMember fields given record rest
        readMembers rounds given record rest
      | _ => .error .malformed
    | _ => .error .malformed

/-- Read an object whose bracket was taken. -/
def readObject (record : α) : Reader α := fun input =>
  match skipSpace input with
  | [] => .error .truncated
  | '\x7d' :: rest => if complete fields [] then .ok (record, rest) else .error .mismatched
  | '"' :: rest => do
    let ((given, record), rest) ← readMember fields [] record rest
    readMembers fields (rest.length + 1) given record rest
  | _ => .error .malformed

end Members

/-- Take the end of an array after its last field. -/
def closeArray : Reader Unit := token ']'

/-- Read the fields after the first one and the end of the array. -/
def readNextElements {α : Type} : List (Field α) → α → Reader α
  | [], record, input => do
    let (_, rest) ← closeArray input
    .ok (record, rest)
  | field :: fields, record, input =>
    match skipSpace input with
    | [] => .error .truncated
    | ']' :: rest =>
      if (field :: fields).all (·.presence = .optional) then .ok (record, rest)
      else .error .mismatched
    | ',' :: rest =>
      match skipSpace rest with
      | [] => .error .truncated
      | ']' :: _ => .error .malformed
      | rest => do
        let (record, rest) ← field.read record rest
        readNextElements fields record rest
    | _ => .error .malformed

/-- Read an array whose bracket was taken as the fields of a record in order. -/
def readElements {α : Type} : List (Field α) → α → Reader α
  | [], record, input => do
    let (_, rest) ← closeArray input
    .ok (record, rest)
  | field :: fields, record, input =>
    match skipSpace input with
    | [] => .error .truncated
    | ']' :: rest =>
      if (field :: fields).all (·.presence = .optional) then .ok (record, rest)
      else .error .mismatched
    | rest => do
      let (record, rest) ← field.read record rest
      readNextElements fields record rest

/-- Read a record. What is missing is taken from `initial`. -/
def record {α : Type} (initial : α) (fields : List (Field α)) : Reader α := fun input =>
  match skipSpace input with
  | '[' :: rest => readElements fields initial rest
  | '\x7b' :: rest => readObject fields initial rest
  | other => refuse other

/-- Read the elements after the first one and the end of the list. Every round takes a
character. -/
def readListNext {α : Type} (reader : Reader α) : Nat → Reader (List α)
  | 0, _ => .error .truncated
  | rounds + 1, input =>
    match skipSpace input with
    | [] => .error .truncated
    | ']' :: rest => .ok ([], rest)
    | ',' :: rest =>
      match skipSpace rest with
      | [] => .error .truncated
      | ']' :: _ => .error .malformed
      | rest => do
        let (value, rest) ← reader rest
        let (values, rest) ← readListNext reader rounds rest
        .ok (value :: values, rest)
    | _ => .error .malformed

def list {α : Type} (reader : Reader α) : Reader (List α) := fun input =>
  match skipSpace input with
  | '[' :: rest =>
    match skipSpace rest with
    | [] => .error .truncated
    | ']' :: rest => .ok ([], rest)
    | rest => do
      let (value, rest) ← reader rest
      let (values, rest) ← readListNext reader (rest.length + 1) rest
      .ok (value :: values, rest)
  | other => refuse other

end Multihead.Json
