import Multihead.Json.Number
import Multihead.Json.Text

/-!
# Readers of scalars

Readers of texts, truth values and integers, and of what may be null. Each takes the spaces before
its value. Whatever else stands there is judged by `refuse`.
-/

namespace Multihead.Json

/-- Take the text whose opening mark was taken. -/
def textBody : Reader String := takeText true .plain []

/-- The fault of a text whose next token starts no value of the expected type. A scalar is read to
its end first. -/
def refuse {α : Type} : Reader α
  | [] => .error .truncated
  | c :: rest =>
    if c = 'n' then do throwAfter (word "ull".toList rest)
    else if c = 't' then do throwAfter (word "rue".toList rest)
    else if c = 'f' then do throwAfter (word "alse".toList rest)
    else if c = '"' then do throwAfter (textBody rest)
    else if startsNumber c then do throwAfter (number (c :: rest))
    else if c = '[' || c = '\x7b' then .error .mismatched
    else .error .malformed
where
  /-- The value is of the wrong type, unless reading it fails. -/
  throwAfter {β γ : Type} (taken : Except Fault (β × List Char)) : Except Fault γ := do
    let _ ← taken
    .error .mismatched

def text : Reader String := fun input =>
  match skipSpace input with
  | '"' :: rest => textBody rest
  | other => refuse other

def bool : Reader Bool := fun input =>
  match skipSpace input with
  | 't' :: rest => do
    let (_, rest) ← word "rue".toList rest
    .ok (true, rest)
  | 'f' :: rest => do
    let (_, rest) ← word "alse".toList rest
    .ok (false, rest)
  | other => refuse other

/-- Read an integer within bounds, both of them included. -/
def integer (least greatest : Int) : Reader Int := fun input =>
  match skipSpace input with
  | [] => .error .truncated
  | c :: rest =>
    if startsNumber c then do
      let (n, rest) ← number (c :: rest)
      match n.integer? with
      | some i => if least ≤ i && i ≤ greatest then .ok (i, rest) else .error .mismatched
      | none => .error .mismatched
    else refuse (c :: rest)

/-- Read a signed integer of 32 bits. -/
def int32 : Reader Int32 := fun input => do
  let (i, rest) ← integer (-2147483648) 2147483647 input
  .ok (Int32.ofInt i, rest)

/-- Read an unsigned integer of 32 bits. -/
def uint32 : Reader UInt32 := fun input => do
  let (i, rest) ← integer 0 4294967295 input
  .ok (UInt32.ofNat i.toNat, rest)

/-- Read null, or what `reader` reads. -/
def nullable {α : Type} (reader : Reader α) : Reader (Option α) := fun input =>
  match skipSpace input with
  | 'n' :: rest => do
    let (_, rest) ← word "ull".toList rest
    .ok (none, rest)
  | other => do
    let (value, rest) ← reader other
    .ok (some value, rest)

def null : Reader Unit := fun input =>
  match skipSpace input with
  | 'n' :: rest => word "ull".toList rest
  | other => refuse other

/-- Read one of several names. A name may also be written as the only member of an object, with the
content null. -/
def name {α : Type} (ofName? : String → Option α) : Reader α := fun input =>
  match skipSpace input with
  | [] => .error .truncated
  | '"' :: rest => do
    let (found, rest) ← textBody rest
    let value ← named found
    .ok (value, rest)
  | '\x7b' :: rest => do
    let (found, rest) ← text rest
    let value ← named found
    let (_, rest) ← token ':' rest
    let (_, rest) ← null rest
    let (_, rest) ← token '\x7d' rest
    .ok (value, rest)
  | _ => .error .malformed
where
  named (found : String) : Except Fault α :=
    match ofName? found with
    | some value => .ok value
    | none => .error .mismatched

end Multihead.Json
