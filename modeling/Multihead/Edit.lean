import Multihead.Arrangement
import Multihead.Failure

/-!
# Edits of a selection

An edit is what a user asks to be changed about a selection and its mode. It is applied in one
order, however it was written: to select every monitor stands alone; else the selection is cleared,
then the toggles are done one by one, then the mode is changed.
-/

namespace Multihead

/-- A change to a selection and its mode. -/
structure Edit where
  /-- The positions to toggle in order, counted from one. -/
  toggles : List Nat := []
  /-- Whether to use every monitor. -/
  all : Bool := false
  /-- Whether to begin with nothing selected. -/
  clear : Bool := false
  /-- The mode to change to, whatever else the edit asks for. -/
  mode : Option FullscreenMode := none
deriving DecidableEq, Repr, Inhabited

namespace Edit

/-- Toggle the monitor at a position that is counted from one. -/
def toggle (a : Arrangement) (number : Nat) : ExceptT Failure Logged Arrangement :=
  if number = 0 then throw .positionZero
  else do
    let (outcome, toggled) ← (Arrangement.toggle (number - 1)).on a
    match outcome with
    | .ok _ => return toggled
    | .error e => throw (.arrangement e)

/-- The mode that the edit changes to, if any. To clear or to toggle implies the mode `selected`. -/
def impliedMode (edit : Edit) : Option FullscreenMode :=
  edit.mode.or (if edit.clear || !edit.toggles.isEmpty then some .selected else none)

def apply (edit : Edit) (a : Arrangement) : ExceptT Failure Logged Arrangement := do
  if edit.all then a.setMode .all
  else
    let edited ← edit.toggles.foldlM toggle (if edit.clear then a.clear else a)
    match edit.impliedMode with
    | some mode => edited.setMode mode
    | none => return edited

end Edit

end Multihead
