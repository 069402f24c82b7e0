import Multihead.Text.Blank

/-!
# Fullscreen modes

How the frame buffer of a fullscreen session is chosen.
-/

namespace Multihead

/-- Which monitors a fullscreen session covers. -/
inductive FullscreenMode
  /-- Only the monitor that the window is on. -/
  | current
  | selected
  | all
deriving DecidableEq, Repr, Inhabited

namespace FullscreenMode

/-- The name that is written and read. -/
def name : FullscreenMode → String
  | .current => "current"
  | .selected => "selected"
  | .all => "all"

/-- The name that stands in a log record. -/
def label : FullscreenMode → String
  | .current => "Current"
  | .selected => "Selected"
  | .all => "All"

/-- Whether the mode covers more than the monitor that the window is on. -/
def spans (mode : FullscreenMode) : Bool := mode != .current

def ofName? : String → Option FullscreenMode
  | "current" => some .current
  | "selected" => some .selected
  | "all" => some .all
  | _ => none

/-- The name that a user meant: without blanks around it and with ASCII letters in lower case. -/
def foldName (text : String) : String :=
  String.ofList ((Text.trimBlank text.toList).map Char.toLower)

/-- The mode that a user named. What is not a name is given back as it was understood. -/
def parse (text : String) : Except String FullscreenMode :=
  match ofName? (foldName text) with
  | some mode => .ok mode
  | none => .error (foldName text)

theorem ofName?_name (mode : FullscreenMode) : ofName? mode.name = some mode := by
  cases mode <;> rfl

end FullscreenMode

end Multihead
