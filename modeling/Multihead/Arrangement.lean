import Multihead.DisplaySource
import Multihead.Requirement
import Multihead.Selection
import Multihead.Settings

/-!
# The monitor arrangement

An arrangement is one catalog, a selection sized for it and a fullscreen mode. It answers everything
that a view of the monitors asks: which of them are selected and which are required, the frame
buffer and its limits, the primary monitor. Nothing derived is stored.

In the mode `all` every monitor counts as selected; the selection that was made is kept beside it.
-/

namespace Multihead

/-- The monitors, the selection among them and the mode. -/
structure Arrangement where
  catalog : Catalog
  selection : Selection catalog.size
  mode : FullscreenMode
deriving DecidableEq

namespace Arrangement

/-! ## Building -/

/-- Nothing selected of a catalog, in the mode `selected`. -/
def ofCatalog (catalog : Catalog) : Arrangement :=
  ⟨catalog, .unselected catalog.size, .selected⟩

def empty : Arrangement := ofCatalog .empty

instance : Inhabited Arrangement := ⟨empty⟩

/-- The arrangement of the given displays. Without displays it has no monitors, with a warning. -/
def ofDisplays (displays : List Display) : Logged Arrangement :=
  match Catalog.build displays with
  | .ok catalog => ofCatalog <$> catalog
  | .error e => ⟨empty,
    [⟨.warn, .arrangement, e.message ++ "; fullscreen across monitors is unavailable", []⟩]⟩

def ofSource (source : DisplaySource) : Logged Arrangement := do
  ofDisplays (← source.enumerate)

/-! ## Monitors -/

def count (a : Arrangement) : Nat := a.catalog.size

def dimensions (a : Arrangement) (position : Nat) : Except ArrangementError Rect :=
  a.catalog.rect position

/-- What a user reads about the monitor at a position. -/
def description (a : Arrangement) (position : Nat) : Except ArrangementError String :=
  a.catalog.description position

/-- Refuse a position that names no monitor. -/
def check (a : Arrangement) (position : Nat) : Except ArrangementError Unit :=
  a.catalog.check position

/-- The width of the layout, measured from the origin of the virtual desktop. -/
def width (a : Arrangement) : UInt32 := a.catalog.extent.1

/-- The height of the layout, measured from the origin of the virtual desktop. -/
def height (a : Arrangement) : UInt32 := a.catalog.extent.2

/-! ## Selected, required and active monitors -/

/-- The positions that count as selected in the current mode. -/
def selected (a : Arrangement) : SortedSet Nat :=
  match a.mode with
  | .all => .range a.count
  | _ => a.selection.positions

/-- Whether the monitor at a position counts as selected. -/
def isSelected (a : Arrangement) (position : Nat) : Except ArrangementError Bool := do
  let selected ← a.selection.contains position
  return a.mode = .all || selected

def required (a : Arrangement) : SortedSet Nat := a.catalog.required a.selected

def isRequired (a : Arrangement) (position : Nat) : Except ArrangementError Bool :=
  a.catalog.isRequired a.selected position

def hasRequired (a : Arrangement) : Bool := !a.required.isEmpty

def active (a : Arrangement) : SortedSet Nat := a.selected ∪ a.required

/-- The monitors that count as selected, in catalog order. -/
def selectedDisplays (a : Arrangement) : List Display :=
  a.selected.toList.filterMap a.catalog.get?

/-! ## The frame buffer -/

/-- The box around the active monitors, unless the mode covers only the current one. -/
def boundingBox (a : Arrangement) : Option BoundingBox :=
  if a.mode.spans then BoundingBox.ofSet a.catalog a.active else none

/-- The frame buffer, without extent when there is no box. -/
def frameBuffer (a : Arrangement) : Rect := (a.boundingBox.map (·.rect)).getD .zero

/-- The platform index of the monitor that limits an edge of the frame buffer. -/
def limit (a : Arrangement) (edge : Edge) : Option UInt32 := do
  let box ← a.boundingBox
  let monitor ← a.catalog.get? (box.limit edge).position
  return monitor.stableIndex

/-- The platform index of the monitor that acts as the primary one: `0` if it is active, else the
first active monitor of the catalog. There is none when the mode covers only the current monitor. -/
def primaryIndex (a : Arrangement) : Option UInt32 :=
  if a.mode.spans then
    let indices := (a.active.toList.filterMap a.catalog.get?).map (·.stableIndex)
    (indices.find? (· = 0)).or indices.head?
  else none

/-- The primary monitor. That it was resolved is logged, unless the mode rules it out. -/
def primary (a : Arrangement) : Logged (Option UInt32) where
  value := a.primaryIndex
  records :=
    let shown := match a.primaryIndex with
      | some index => "Some(" ++ toString index.toNat ++ ")"
      | none => "None"
    if a.mode.spans then
      [⟨.debug, .arrangement, "Resolved primary monitor", [("primary", .text shown)]⟩]
    else []

/-! ## Requests

What may fail is asked of an arrangement as a `Request`. The arrangement is there before and after,
and so are the records: whatever a request has changed or recorded by the time it fails stays. -/

/-- Something asked of an arrangement, which may change it, make records, and fail. -/
abbrev Request (ε α : Type) := ExceptT ε (StateT Arrangement Logged) α

namespace Request

variable {ε α : Type}

/-- What a request comes to, and the arrangement that it leaves, also if it fails. -/
def on (request : Request ε α) (a : Arrangement) : Logged (Except ε α × Arrangement) :=
  StateT.run (ExceptT.run request) a

/-- A part of a request that cannot fail. -/
def step (change : Arrangement → Logged (α × Arrangement)) : Request ε α := ExceptT.lift change

end Request

/-! ## Changing the mode and the selection -/

/-- Change the mode. The selection stays. -/
def setMode (a : Arrangement) (mode : FullscreenMode) : Logged Arrangement where
  value := { a with mode }
  records :=
    [⟨.debug, .arrangement, "Fullscreen mode changed", [("mode", .text mode.label)]⟩]

/-- The arrangement with another selection of its monitors. -/
def withSelection (a : Arrangement) (selection : Selection a.catalog.size) : Arrangement :=
  { a with selection }

def changed (message : String) (position : Nat) (selected : Bool) : Log.Record :=
  ⟨.debug, .arrangement, message, [("pos", .number position), ("selected", .flag selected)]⟩

def set (position : Nat) (selected : Bool) : Request ArrangementError Unit := do
  let a ← get
  let selection ← a.selection.set position selected
  MonadState.set (a.withSelection selection)
  Logged.record (changed "Monitor selection changed" position selected)

/-- Flip the monitor at a position, and say whether it is selected now. -/
def toggle (position : Nat) : Request ArrangementError Bool := do
  let a ← get
  let (selected, selection) ← a.selection.toggle position
  MonadState.set (a.withSelection selection)
  Logged.record (changed "Monitor selection toggled" position selected)
  return selected

def clear (a : Arrangement) : Arrangement := a.withSelection (.unselected _)

/-- Apply what a selection text says. The word for every monitor changes the mode to `all` and keeps
the selection; positions replace the selection and keep the mode. -/
def apply (a : Arrangement) : SelectionText → Logged (RestoreReport × Arrangement)
  | .all => do return (⟨a.selection.positions, []⟩, ← a.setMode .all)
  | .positions written => do
    let (report, selection) ← Selection.restore _ written
    return (report, a.withSelection selection)

def applyText (text : String) : Request SelectionText.Error RestoreReport := do
  let written ← SelectionText.parse text
  .step (·.apply written)

/-- Apply saved settings: the mode, and then the selection text, which is read before either. -/
def applySettings (settings : FullscreenSettings) : Request SelectionText.Error RestoreReport := do
  let written ← SelectionText.parse settings.selection
  .step fun a => do return ((), ← a.setMode settings.mode)
  .step (·.apply written)

/-- The written form of the selection that was made. -/
def save (a : Arrangement) : Logged String := a.selection.text

def settings (a : Arrangement) : Logged FullscreenSettings := do return ⟨a.mode, ← a.save⟩

/-! ## Platform indices -/

def selectedIndices (a : Arrangement) : SortedSet UInt32 :=
  .ofList ((a.selection.positions.toList.filterMap a.catalog.get?).map (·.stableIndex))

/-- The warning about platform indices that no monitor has. -/
def unknownIndices (unknown : List UInt32) : Log.Record :=
  ⟨.warn, .arrangement, "Ignoring unknown platform monitor indices",
    [("unknown", .ofNumbers (unknown.map (Int.ofNat ·.toNat)))]⟩

/-- Select exactly the monitors with the given platform indices, and give back those that no monitor
has. -/
def selectIndices (indices : SortedSet UInt32) : Request ArrangementError (List UInt32) := do
  let a ← get
  let unknown := indices.toList.filter (a.catalog.positionOf? · |>.isNone)
  let positions := SortedSet.ofList (indices.toList.filterMap a.catalog.positionOf?)
  unless unknown.isEmpty do
    Logged.record (unknownIndices unknown)
  let selection ← Selection.ofPositions a.catalog.size positions
  MonadState.set (a.withSelection selection)
  return unknown

end Arrangement

end Multihead
