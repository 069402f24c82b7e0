import Multihead.Proofs.Settings.File
import Multihead.Session

/-!
# What the commands do

Every command but `select` only tells (`quiet_perform`), and so does `select` until it saves. What
it makes of the saved selection depends on the files, the settings and the edit (`editedAmong`), and
neither on the log nor on whether the result is to be saved (`exists_told_edited`). An attempt to
save ends in one of two ways (`Attempted`), and so a command does one of three things
(`perform_cases`).
-/

namespace Multihead.Session

open Machine FileSystem

variable {files : FileSystem} {working : Location} {settings : Settings} {path : FilePath}
  {file : Option FilePath} {edit : Edit} {s : Machine}

/-! ## What is loaded -/

/-- The layout that a path leads to. -/
def layoutFrom (files : FileSystem) (working : Location) (path : FilePath) :
    Except Failure Layout := do
  let text ← (files.readText working path).mapError (.layoutUnreadable path)
  (Json.parse Layout.reader text).mapError (.layoutMalformed path)

/-- The layout to use, among some files. -/
def layoutAmong (files : FileSystem) (working : Location) (settings : Settings)
    (file : Option FilePath) : Except Failure Layout :=
  match file.or settings.layoutFile with
  | none => .error .noLayout
  | some path =>
    if files.exists? working path then layoutFrom files working path
    else .error (.fileNotFound path)

/-- The arrangement that the settings give, among some files. -/
def arrangementAmong (files : FileSystem) (working : Location) (settings : Settings)
    (file : Option FilePath) : Except Failure Arrangement :=
  (layoutAmong files working settings file).map fun layout =>
    (restore layout settings.fullscreen).value

/-- What an edit makes of that arrangement. -/
def editedAmong (files : FileSystem) (working : Location) (settings : Settings)
    (file : Option FilePath) (edit : Edit) : Except Failure Arrangement := do
  (edit.apply (← arrangementAmong files working settings file)).run.value

theorem tells_load (s : Machine) (path : FilePath) :
    Tells s (Layout.load path) (layoutFrom s.files s.working path) "" := by
  refine .bind_look (outcomeOf_readText path s) ?_
  unfold layoutFrom
  cases s.files.readText s.working path with
  | error e => exact (tells_throw s _).bind_error
  | ok text =>
    change Tells s _ ((Json.parse Layout.reader text).mapError (.layoutMalformed path)) ""
    refine .bind_look (outcomeOf_pure text s) ?_
    cases Json.parse Layout.reader text with
    | error fault => exact (tells_throw s _).bind_error
    | ok layout =>
      refine .bind_look (outcomeOf_pure layout s) ?_
      exact (tells_log s _).bind_silent fun s' _ => tells_pure s' layout

theorem tells_loadLayout (s : Machine) (settings : Settings) (file : Option FilePath) :
    Tells s (loadLayout settings file) (layoutAmong s.files s.working settings file) "" := by
  unfold loadLayout layoutAmong
  cases file.or settings.layoutFile with
  | none => exact tells_throw s .noLayout
  | some path =>
    refine .bind_look (outcomeOf_fileExists path s) ?_
    dsimp only
    split
    · exact tells_load s path
    · exact tells_throw s (.fileNotFound path)

theorem tells_loadArrangement (s : Machine) (settings : Settings) (file : Option FilePath) :
    Tells s (loadArrangement settings file)
      (arrangementAmong s.files s.working settings file) "" := by
  have hlayout := tells_loadLayout s settings file
  unfold loadArrangement arrangementAmong
  cases hamong : layoutAmong s.files s.working settings file with
  | error failure =>
    rw [hamong] at hlayout
    exact hlayout.bind_error
  | ok layout =>
    rw [hamong] at hlayout
    exact hlayout.bind_silent fun s' _ => tells_report s' (restore layout settings.fullscreen)

/-! ## Commands that only tell -/

theorem quiet_showLayout (settings : Settings) (file : Option FilePath) :
    Quiet (showLayout settings file : ExceptT Failure (StateM Machine) Unit) := by
  refine .bind (fun s => ⟨_, _, tells_loadLayout s settings file⟩) fun layout => ?_
  refine .bind (quiet_report _) fun displays => ?_
  cases desktopBounds displays with
  | none => exact quiet_print _
  | some bounds =>
    refine .bind (quiet_settle _ _) fun built => ?_
    refine .bind (quiet_report _) fun catalog => ?_
    exact quiet_print _

theorem quiet_resolveText (a : Arrangement) (text : String) :
    Quiet (resolveText a text : ExceptT Failure (StateM Machine) Arrangement) := by
  refine .bind (quiet_report _) fun a => ?_
  refine .bind (quiet_report _) fun (outcome, a) => ?_
  refine .bind (quiet_settle _ _) fun report => ?_
  exact .bind (quiet_print _) fun _ s => ⟨_, _, tells_pure s a⟩

theorem quiet_showResolution (settings : Settings) (file : Option FilePath)
    (selection : Option String) :
    Quiet (showResolution settings file selection : ExceptT Failure (StateM Machine) Unit) := by
  refine .bind (fun s => ⟨_, _, tells_loadArrangement s settings file⟩) fun saved => ?_
  have hshow (a : Arrangement) : Quiet (do
      if a.mode = .current then Host.print Report.followsWindow
      else
        Host.print (Report.resolution a)
        Host.print (Report.primary (← Host.report a.primary)) :
        ExceptT Failure (StateM Machine) Unit) := by
    split
    · exact quiet_print _
    · refine .bind (quiet_print _) fun _ => ?_
      refine .bind (quiet_report _) fun primary => ?_
      exact quiet_print _
  cases selection with
  | none => exact hshow saved
  | some text => exact (quiet_resolveText saved text).bind hshow

theorem quiet_showSelectionText (text : String) :
    Quiet (showSelectionText text : ExceptT Failure (StateM Machine) Unit) :=
  .bind (quiet_settle _ _) fun _ => quiet_print _

/-- The settings are shown as they were loaded. -/
theorem tells_showSettings (s : Machine) (settings : Settings) (path : FilePath) :
    Tells s (showSettings settings path) (.ok ())
      (Report.settings settings path (s.files.exists? s.working path)
        (settings.layoutFile.any (s.files.exists? s.working))) := by
  refine .bind_look (outcomeOf_fileExists path s) ?_
  cases settings.layoutFile with
  | none => exact .bind_look (outcomeOf_pure false s) (tells_print s _)
  | some layout => exact .bind_look (outcomeOf_fileExists layout s) (tells_print s _)

theorem quiet_showSettings (settings : Settings) (path : FilePath) :
    Quiet (showSettings settings path : ExceptT Failure (StateM Machine) Unit) :=
  fun s => ⟨_, _, tells_showSettings s settings path⟩

/-! ## Editing -/

/-- Load the saved arrangement and apply an edit to it. -/
def edited (settings : Settings) (file : Option FilePath) (edit : Edit) :
    ExceptT Failure (StateM Machine) Arrangement := do
  Host.reportAttempt (edit.apply (← loadArrangement settings file))

theorem tells_edited (s : Machine) (settings : Settings) (file : Option FilePath) (edit : Edit) :
    Tells s (edited settings file edit)
      (editedAmong s.files s.working settings file edit) "" := by
  have hsaved := tells_loadArrangement s settings file
  unfold editedAmong
  cases hamong : arrangementAmong s.files s.working settings file with
  | error failure =>
    rw [hamong] at hsaved
    exact hsaved.bind_error
  | ok saved =>
    rw [hamong] at hsaved
    exact hsaved.bind_silent fun s' _ => tells_reportAttempt s' (edit.apply saved)

/-- What is left to do once the edited selection was shown. -/
def conclude (settings : Settings) (path : FilePath) (dryRun : Bool)
    (fullscreen : FullscreenSettings) : ExceptT Failure (StateM Machine) Unit := do
  if dryRun then Host.print Report.dryRun
  else
    Settings.save { settings with fullscreen } path
    Host.log (savedRecord path)
    Host.print (Report.saved path)

theorem editSelection_eq (settings : Settings) (path : FilePath) (file : Option FilePath)
    (edit : Edit) (dryRun : Bool) :
    (editSelection settings path file edit dryRun : ExceptT Failure (StateM Machine) Unit) =
      edited settings file edit >>= fun a => (do
        let fullscreen ← Host.report a.settings
        Host.print (Report.edited fullscreen a.required)
        conclude settings path dryRun fullscreen) := by
  unfold edited
  rw [bind_assoc]
  rfl

/-- An edit that fails is reported as it is, and nothing is printed. -/
theorem tells_editSelection_of_error {failure : Failure} (path : FilePath) (dryRun : Bool)
    (h : editedAmong s.files s.working settings file edit = .error failure) :
    Tells s (editSelection settings path file edit dryRun) (.error failure) "" := by
  have hedited := tells_edited s settings file edit
  rw [h] at hedited
  rw [editSelection_eq]
  exact hedited.bind_error

section Edited

variable {a : Arrangement} (h : editedAmong s.files s.working settings file edit = .ok a)
include h

/-- The edited selection is shown, whether or not it is to be saved. -/
theorem exists_told_edited :
    ∃ s₁, Told s s₁ (Report.edited a.settings.value a.required) ∧
      ∀ path dryRun, outcomeOf (editSelection settings path file edit dryRun) s =
        outcomeOf (conclude settings path dryRun a.settings.value) s₁ := by
  obtain ⟨s', hrun, htold⟩ := tells_edited s settings file edit
  rw [h] at hrun
  obtain ⟨s'', hrun', htold'⟩ := tells_report s' a.settings
  obtain ⟨s₁, hrun₁, htold₁⟩ := tells_print s'' (Report.edited a.settings.value a.required)
  refine ⟨s₁, ?_, fun path dryRun => ?_⟩
  · simpa using (htold.trans htold').trans htold₁
  · rw [editSelection_eq, outcomeOf_bind, hrun]
    dsimp only
    rw [outcomeOf_bind, hrun']
    dsimp only
    rw [outcomeOf_bind, hrun₁]

theorem tells_dryRun (path : FilePath) :
    Tells s (editSelection settings path file edit true) (.ok ())
      (Report.edited a.settings.value a.required ++ Report.dryRun) := by
  obtain ⟨s₁, htold, hrun⟩ := exists_told_edited h
  obtain ⟨s₂, hrun', htold'⟩ := tells_print s₁ Report.dryRun
  exact ⟨s₂, (hrun path true).trans hrun', htold.trans htold'⟩

end Edited

/-! ## Performing a command -/

theorem quiet_perform (settings : Settings) (path : FilePath) {command : Command}
    (h : ∀ file edit, command ≠ .select file edit false) :
    Quiet (perform settings path command : ExceptT Failure (StateM Machine) Unit) := by
  cases command with
  | layout file => exact quiet_showLayout settings file
  | resolve file selection => exact quiet_showResolution settings file selection
  | parse text => exact quiet_showSelectionText text
  | check => exact quiet_showSettings settings path
  | select file edit dryRun =>
    obtain rfl : dryRun = true := by
      cases dryRun with
      | true => rfl
      | false => exact absurd rfl (h file edit)
    intro s
    cases hedited : editedAmong s.files s.working settings file edit with
    | error failure => exact ⟨_, _, tells_editSelection_of_error path true hedited⟩
    | ok a => exact ⟨_, _, tells_dryRun hedited path⟩

/-- The ways in which an attempt to save the edited selection ends: the settings are read back from
their file with only the selection replaced, or they are what they were. -/
inductive Attempted (settings : Settings) (path : FilePath) (a : Arrangement) (s : Machine) :
    Except Failure Unit → Machine → Prop
  | saved {s' : Machine}
    (printed : s'.printed =
      s.printed ++ (Report.edited a.settings.value a.required ++ Report.saved path))
    (place : path.filePlace? s.working = some (path.place s.working))
    (files : Evolves (fun l => s.LogsTo l ∨ l = path.place s.working) s.files s'.files)
    (read : Settings.readFrom s'.files s.working path =
      .ok { settings with fullscreen := a.settings.value }) :
    Attempted settings path a s (.ok ()) s'
  | unsaved {s' : Machine} (e : FileError)
    (printed : s'.printed = s.printed ++ Report.edited a.settings.value a.required)
    (files : Evolves s.LogsTo s.files s'.files)
    (inUse : Settings.inUse s'.files s.working path = Settings.inUse s.files s.working path) :
    Attempted settings path a s (.error (.file e)) s'

section Ready

variable {s' : Machine} {result : Except Failure Unit} {command : Command} {a : Arrangement}
  (hready : s.LogReady) (hother : ∀ l, s.LogsTo l → path.filePlace? s.working ≠ some l)
include hready hother

theorem attempted_of_edited (h : editedAmong s.files s.working settings file edit = .ok a)
    (hrun : outcomeOf (editSelection settings path file edit false) s = (result, s')) :
    Attempted settings path a s result s' := by
  obtain ⟨s₁, htold, hrun₁⟩ := exists_told_edited h
  have hready₁ : s₁.LogReady := htold.ready hready
  have hlogs : s₁.LogsTo = s.LogsTo := logsTo_congr htold.sink
  have hfiles₁ : Evolves s.LogsTo s.files s₁.files := (htold.files hready).evolves
  replace hrun : outcomeOf (Settings.save { settings with fullscreen := a.settings.value } path >>=
      fun _ => do
        Host.log (savedRecord path)
        Host.print (Report.saved path)) s₁ = (result, s') := (hrun₁ path false).symm.trans hrun
  rw [outcomeOf_bind] at hrun
  rcases Settings.save_cases { settings with fullscreen := a.settings.value } path s₁ with
    ⟨files, hsave, hfiles, hplace, hread⟩ | ⟨e, files, hsave, hfiles, huse⟩
  -- After the settings only a record is written, and it goes to another file.
  · rw [htold.working] at hfiles hplace hread
    have hplace' : ¬ s.LogsTo (path.place s.working) := fun hl => hother _ hl hplace
    have hrest : Tells { s₁ with files } (do
        Host.log (savedRecord path)
        Host.print (Report.saved path)) (.ok ()) (Report.saved path) :=
      (tells_log _ (savedRecord path)).bind_silent fun s' _ => tells_print s' (Report.saved path)
    obtain ⟨s₂, hrest, htold'⟩ := hrest
    rw [hsave] at hrun
    obtain ⟨rfl, rfl⟩ := Prod.mk.inj (hrun.symm.trans hrest)
    have hready' : LogReady { s₁ with files } :=
      hready₁.of_evolves rfl hfiles fun l hl hp => hplace' (hp ▸ hlogs ▸ hl)
    have hfiles' : Evolves s.LogsTo files s'.files := hlogs ▸ (htold'.files hready').evolves
    refine .saved ?_ hplace ?_ (Settings.readFrom_of_evolves hfiles' hplace' hread)
    · rw [htold'.printed, htold.printed, String.append_assoc]
    · refine (hfiles₁.mono fun l => .inl).trans ?_
      exact (hfiles.mono fun l => .inr).trans (hfiles'.mono fun l => .inl)
  · rw [hsave] at hrun
    obtain ⟨rfl, rfl⟩ := Prod.mk.inj hrun
    rw [htold.working] at huse
    refine .unsaved e htold.printed (hfiles₁.trans (hfiles.mono nofun)) ?_
    exact huse.trans (Settings.inUse_of_sameBut (htold.files hready) hother)

/-- A command only tells, unless it is an edit that is to be saved and can be made. -/
theorem perform_cases (hrun : outcomeOf (perform settings path command) s = (result, s')) :
    ((∃ text, Told s s' text) ∧
      (result = .ok () → ∀ file edit, command ≠ .select file edit false)) ∨
    ∃ file edit a, command = .select file edit false ∧
      editedAmong s.files s.working settings file edit = .ok a ∧
        Attempted settings path a s result s' := by
  by_cases hcommand : ∃ file edit, command = .select file edit false
  · obtain ⟨file, edit, rfl⟩ := hcommand
    cases hedited : editedAmong s.files s.working settings file edit with
    | error failure =>
      obtain ⟨s'', hrun', htold⟩ := tells_editSelection_of_error path false hedited
      obtain ⟨rfl, rfl⟩ := Prod.mk.inj (hrun.symm.trans hrun')
      exact .inl ⟨⟨_, htold⟩, nofun⟩
    | ok a =>
      have hattempted := attempted_of_edited hready hother hedited hrun
      exact .inr ⟨file, edit, a, rfl, hedited, hattempted⟩
  · have hquiet := quiet_perform settings path fun file edit h => hcommand ⟨file, edit, h⟩
    obtain ⟨outcome, text, s'', hrun', htold⟩ := hquiet s
    obtain ⟨rfl, rfl⟩ := Prod.mk.inj (hrun.symm.trans hrun')
    exact .inl ⟨⟨text, htold⟩, fun _ file edit h => hcommand ⟨file, edit, h⟩⟩

end Ready

end Multihead.Session
