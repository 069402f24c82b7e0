import Multihead.Arrangement

/-!
# Calls that change an arrangement

Every way to change an arrangement is a value of `Call`. Performing one gives a reply and the
arrangement that the call left, whether it succeeded or not.
-/

namespace Multihead.Arrangement

inductive Call
  | set (position : Nat) (selected : Bool)
  | toggle (position : Nat)
  | clear
  | setMode (mode : FullscreenMode)
  | applyText (text : String)
  | applySettings (settings : FullscreenSettings)
  | selectIndices (indices : SortedSet UInt32)
deriving DecidableEq

inductive Reply
  | done
  | toggled (selected : Bool)
  | restored (report : RestoreReport)
  | unknown (indices : List UInt32)
  | refused (error : ArrangementError)
  | unreadable (error : SelectionText.Error)
deriving DecidableEq, Repr

def Reply.isFailure : Reply → Bool
  | .refused _ => true
  | .unreadable _ => true
  | _ => false

/-- Word a reply to what a request came to. -/
def Reply.of {ε α : Type} (failure : ε → Reply) (success : α → Reply) : Except ε α → Reply
  | .ok value => success value
  | .error e => failure e

/-- Put a request to an arrangement, and go on with the arrangement that it left. -/
def answer {ε α : Type} (a : Arrangement) (failure : ε → Reply) (success : α → Reply)
    (request : Request ε α) : Logged (Reply × Arrangement) := do
  let (outcome, b) ← request.on a
  return (.of failure success outcome, b)

def perform (a : Arrangement) : Call → Logged (Reply × Arrangement)
  | .set position selected =>
    a.answer .refused (fun () => .done) (Arrangement.set position selected)
  | .toggle position => a.answer .refused .toggled (Arrangement.toggle position)
  | .clear => pure (.done, a.clear)
  | .setMode mode => do return (.done, ← a.setMode mode)
  | .applyText text => a.answer .unreadable .restored (Arrangement.applyText text)
  | .applySettings settings => a.answer .unreadable .restored (Arrangement.applySettings settings)
  | .selectIndices indices => a.answer .refused .unknown (Arrangement.selectIndices indices)

/-- Perform calls one after the other, and keep the last arrangement. -/
def performAll (a : Arrangement) (calls : List Call) : Arrangement :=
  calls.foldl (fun a call => (a.perform call).value.2) a

end Multihead.Arrangement
