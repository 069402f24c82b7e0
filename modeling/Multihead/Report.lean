import Multihead.Arrangement
import Multihead.Settings.Json

/-!
# Reports

The texts that commands print. Positions are counted from one, and a number sign stands before the
platform's index of a monitor. Every line ends with a line end.
-/

namespace Multihead.Report

/-- A text behind spaces that bring it to a width. -/
def alignRight (width : Nat) (text : String) : String :=
  String.ofList (List.replicate (width - text.length) ' ') ++ text

/-- A text before spaces that bring it to a width. -/
def alignLeft (width : Nat) (text : String) : String :=
  text ++ String.ofList (List.replicate (width - text.length) ' ')

/-- Lines of text, each with its end. -/
def lines (texts : List String) : String := String.join (texts.map (· ++ "\n"))

/-- A platform index, or a dash where there is none. -/
def indexLabel : Option UInt32 → String
  | some index => "#" ++ toString index.toNat
  | none => "-"

def monitorLine (position : Nat) (monitor : Display) : String :=
  "  " ++ alignRight 2 (toString (position + 1)) ++ ". [" ++ indexLabel monitor.stableIndex ++
    "] " ++ monitor.description

def monitorLines (c : Catalog) (positions : SortedSet Nat) : List String :=
  positions.toList.filterMap fun position => (c.get? position).map (monitorLine position)

/-- The report on the monitors of a layout. -/
def catalog (c : Catalog) (bounds : Rect) : String :=
  let (width, height) := c.extent
  lines (["Monitors: " ++ toString c.size] ++ monitorLines c (.range c.size) ++
    ["", "Virtual desktop: " ++ bounds.text,
      "Extent from origin: " ++ toString width.toNat ++ "x" ++ toString height.toNat])

def noMonitors : String := lines ["No monitors in layout."]

/-- The warnings about positions that name no monitor. -/
def rejected (positions : List Int) : String :=
  lines (positions.map fun i =>
    "  warning: position " ++ toString (i + 1) ++ " does not name a monitor")

def modeLine (mode : FullscreenMode) : String := "Mode: " ++ mode.name

/-- The report on the mode `current`. -/
def followsWindow : String :=
  lines [modeLine .current, "Fullscreen follows the viewer window; no monitors are combined."]

/-- The report on the selection, the frame buffer and the edges of an arrangement. -/
def resolution (a : Arrangement) : String :=
  let selected := monitorLines a.catalog a.selected
  let required := monitorLines a.catalog a.required
  lines ([modeLine a.mode, "Selected:"] ++
    (if a.selected.isEmpty then ["  (none)"] else selected) ++
    (if a.required.isEmpty then [] else "Required:" :: required) ++
    ["Frame buffer: " ++ a.frameBuffer.text] ++
    Edge.all.map fun edge => "  " ++ alignLeft 6 edge.name ++ " " ++ indexLabel (a.limit edge))

def primary (index : Option UInt32) : String := lines ["Primary: " ++ indexLabel index]

def selectionText (written : SelectionText) : String :=
  let found := match written with
    | .all => ["Selection: every monitor"]
    | .positions set =>
      ("Selection: " ++ toString set.size ++ " monitor(s)") ::
        (if set.toList.any (· < 0) then ["  warning: position 0 never names a monitor"] else [])
  lines (found ++ ["Canonical: " ++ written.render])

/-- The report on the settings that an edit leads to, and on the positions required then. -/
def edited (settings : FullscreenSettings) (required : SortedSet Nat) : String :=
  lines ([modeLine settings.mode, "Selection: " ++ Text.quote settings.selection] ++
    (if required.isEmpty then []
    else ["Also required: " ++
      String.intercalate "," (required.toList.map fun position => toString (position + 1))]))

def dryRun : String := lines ["", "Dry run; configuration not saved."]

def saved (path : String) : String := lines ["", "Saved to " ++ path]

/-- The report on the settings in use: their file, the layout file and the selection, and then the
settings themselves. -/
def settings (s : Settings) (path : String) (found : Bool) (layoutFound : Bool) : String :=
  let file :=
    if found then "[OK] Config file: " ++ path
    else "[--] Config file: " ++ path ++ " (not found, using defaults)"
  let layout := match s.layoutFile with
    | some layout =>
      if layoutFound then "[OK] Layout file: " ++ layout
      else "[WARN] Layout file: " ++ layout ++ " (missing)"
    | none => "[--] Layout file: not configured"
  let selection := match SelectionText.parse s.fullscreen.selection with
    | .ok written => "[OK] Selected monitors: \"" ++ written.render ++ "\""
    | .error e =>
      "[WARN] Selected monitors " ++ Text.quote s.fullscreen.selection ++ ": " ++ e.message
  lines ["Monspan Configuration", String.ofList (List.replicate 50 '='), file, layout, selection,
    "", s.toJson.indentedText]

end Multihead.Report
