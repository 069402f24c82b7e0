import Multihead.Json.Number
import Multihead.Json.Text

/-!
# Passing over a value

A value that nobody asks for only has to keep to the grammar: its numbers may be of any size, its
escaped code units need not make characters, and it may be nested to any depth. The open brackets
are kept on a stack.
-/

namespace Multihead.Json

inductive Bracket
  | array
  | object
deriving DecidableEq, Repr

/-- What has to come next in a value that is passed over. -/
inductive Expected
  | value
  | member
  /-- The first item of the innermost bracket, or its end. -/
  | firstItem
  /-- A comma and another item of the innermost bracket, or its end. -/
  | nextItem
deriving DecidableEq, Repr

def skipScalar : List Char → Except Fault (List Char)
  | [] => .error .truncated
  | c :: rest =>
    if c = 'n' then do return (← word "ull".toList rest).2
    else if c = 't' then do return (← word "rue".toList rest).2
    else if c = 'f' then do return (← word "alse".toList rest).2
    else if c = '"' then do return (← takeText false .plain [] rest).2
    else if startsNumber c then do return (← Number.take .malformed (c :: rest)).2
    else .error .malformed

/-- Pass over the name of a member and the colon after it. -/
def skipName : List Char → Except Fault (List Char)
  | [] => .error .truncated
  | c :: rest =>
    if c = '"' then do
      let (_, rest) ← takeText false .plain [] rest
      return (← token ':' rest).2
    else .error .malformed

def Bracket.item : Bracket → Expected
  | .array => .value
  | .object => .member

def Bracket.closing : Bracket → Char
  | .array => ']'
  | .object => '\x7d'

/-- Pass over the rest of a value, given the open brackets, the innermost one first. A round that
takes no character either follows an opening bracket or is the last one. -/
def skipFrom : Nat → Expected → List Bracket → List Char → Except Fault (List Char)
  | 0, _, _, _ => .error .truncated
  | rounds + 1, .value, stack, input =>
    match skipSpace input with
    | [] => .error .truncated
    | '[' :: rest => skipFrom rounds .firstItem (.array :: stack) rest
    | '\x7b' :: rest => skipFrom rounds .firstItem (.object :: stack) rest
    | other => do
      let rest ← skipScalar other
      skipFrom rounds .nextItem stack rest
  | rounds + 1, .member, stack, input => do
    let rest ← skipName (skipSpace input)
    skipFrom rounds .value stack rest
  | rounds + 1, .firstItem, stack, input =>
    match stack, skipSpace input with
    | [], _ => .ok input
    | _ :: _, [] => .error .truncated
    | bracket :: stack, c :: rest =>
      if c = bracket.closing then skipFrom rounds .nextItem stack rest
      else skipFrom rounds bracket.item (bracket :: stack) (c :: rest)
  | rounds + 1, .nextItem, stack, input =>
    match stack, skipSpace input with
    | [], _ => .ok input
    | _ :: _, [] => .error .truncated
    | bracket :: stack, c :: rest =>
      if c = bracket.closing then skipFrom rounds .nextItem stack rest
      else if c = ',' then skipFrom rounds bracket.item (bracket :: stack) rest
      else .error .malformed

def skip : Reader Unit := fun input => do
  let rest ← skipFrom (2 * input.length + 2) .value [] input
  .ok ((), rest)

end Multihead.Json
