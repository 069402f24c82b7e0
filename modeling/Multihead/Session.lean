import Multihead.Command
import Multihead.Environment
import Multihead.Layout.File
import Multihead.Report
import Multihead.Settings.File

/-!
# Sessions

A session runs one command: it loads the settings, starts the log, and then does what was asked.
The only file that a command writes is the settings file, and only `select` does.
-/

namespace Multihead.Session

variable {m : Type → Type} [Monad m] [Host m]

/-- Load the layout that the command names, or the one of the settings. -/
def loadLayout (settings : Settings) (file : Option FilePath) : ExceptT Failure m Layout := do
  match file.or settings.layoutFile with
  | none => throw .noLayout
  | some path =>
    if ← Host.fileExists path then Layout.load path else throw (.fileNotFound path)

/-- The warning about a saved selection that cannot be read. -/
def unusable (settings : FullscreenSettings) (error : SelectionText.Error) : Log.Record :=
  ⟨.warn, .session, "Ignoring saved monitor selection: " ++ error.message,
    [("selection", .text settings.selection)]⟩

/-- The arrangement of a layout with the saved settings applied to it. Where the saved selection
cannot be read, the saved mode still holds. -/
def restore (layout : Layout) (settings : FullscreenSettings) : Logged Arrangement := do
  let a ← Arrangement.ofSource layout.source
  let a ← a.setMode settings.mode
  let (outcome, a) ← (Arrangement.applySettings settings).on a
  if let .error e := outcome then
    Logged.record (unusable settings e)
  return a

/-- Load a layout and apply the saved settings to it. -/
def loadArrangement (settings : Settings) (file : Option FilePath) :
    ExceptT Failure m Arrangement := do
  Host.report (restore (← loadLayout settings file) settings.fullscreen)

def showLayout (settings : Settings) (file : Option FilePath) : ExceptT Failure m Unit := do
  let layout ← loadLayout settings file
  let displays ← Host.report layout.source.enumerate
  match desktopBounds displays with
  | none => Host.print Report.noMonitors
  | some bounds =>
    let built ← Host.settle .arrangement (Catalog.build displays)
    Host.print (Report.catalog (← Host.report built) bounds)

/-- Apply a selection text in the mode `selected`, and print which positions name no monitor. -/
def resolveText (a : Arrangement) (text : String) : ExceptT Failure m Arrangement := do
  let a ← Host.report (a.setMode .selected)
  let (outcome, a) ← Host.report ((Arrangement.applyText text).on a)
  let report ← Host.settle .selectionText outcome
  Host.print (Report.rejected report.rejected)
  return a

def showResolution (settings : Settings) (file : Option FilePath) (selection : Option String) :
    ExceptT Failure m Unit := do
  let saved ← loadArrangement settings file
  let a ← match selection with
    | some text => resolveText saved text
    | none => pure saved
  if a.mode = .current then Host.print Report.followsWindow
  else
    Host.print (Report.resolution a)
    Host.print (Report.primary (← Host.report a.primary))

def showSelectionText (text : String) : ExceptT Failure m Unit := do
  Host.print (Report.selectionText (← Host.settle .selectionText (SelectionText.parse text)))

/-- The record that an edited selection was saved. -/
def savedRecord (path : FilePath) : Log.Record :=
  ⟨.info, .edit, "Saved monitor selection", [("path", .text path)]⟩

def editSelection (settings : Settings) (path : FilePath) (file : Option FilePath) (edit : Edit)
    (dryRun : Bool) : ExceptT Failure m Unit := do
  let a ← Host.reportAttempt (edit.apply (← loadArrangement settings file))
  let fullscreen ← Host.report a.settings
  Host.print (Report.edited fullscreen a.required)
  if dryRun then Host.print Report.dryRun
  else
    Settings.save { settings with fullscreen } path
    Host.log (savedRecord path)
    Host.print (Report.saved path)

def showSettings (settings : Settings) (path : FilePath) : ExceptT Failure m Unit := do
  let found ← Host.fileExists path
  let layoutFound ← match settings.layoutFile with
    | some layout => Host.fileExists layout
    | none => pure false
  Host.print (Report.settings settings path found layoutFound)

/-- Do what a command asks for, with settings that were loaded from `path`. -/
def perform (settings : Settings) (path : FilePath) : Command → ExceptT Failure m Unit
  | .layout file => showLayout settings file
  | .resolve file selection => showResolution settings file selection
  | .parse text => showSelectionText text
  | .select file edit dryRun => editSelection settings path file edit dryRun
  | .check => showSettings settings path

/-- The level that the log is filtered by. -/
def logLevel (invocation : Invocation) (settings : LoggingSettings) : String :=
  if invocation.verbose then "debug" else settings.level

def run (env : Environment) (invocation : Invocation) : m (Except Failure Unit) := do
  let path := invocation.settingsFile.getD env.settingsPath
  let settings ← Settings.load path
  Host.startLog (env.filter (logLevel invocation settings.logging)) settings.logging.json
    settings.logging.file
  (perform settings path invocation.command).run

end Multihead.Session
