import Multihead.Program
import Multihead.Proofs.SelectionText.RoundTrip
import Multihead.Proofs.Session

/-!
# What a run of the program does

A run that has a command to do loads the settings, starts the log and does the command
(`runOn_of_read`). Whatever the command line, the only file that is written besides the one of the
log is that of the settings, by a `select` that is not a dry run and ends well; what it saves is
what it showed, and what a dry run shows (`run_writes`).
-/

namespace Multihead.Program

open Machine FileSystem

variable {files : FileSystem} {working : Location} {timestamp : String} {env : Environment}
  {arguments : List String} {invocation : Invocation} {path : FilePath} {command : Command}

/-- The outcome of a run on a machine, and the machine afterwards. -/
def runOn (env : Environment) (arguments : List String) (s : Machine) : Outcome × Machine :=
  (Program.run env arguments : StateM Machine Outcome).run s

/-- The settings file of an invocation. -/
def settingsPath (env : Environment) (invocation : Invocation) : FilePath :=
  invocation.settingsFile.getD env.settingsPath

/-- The outcome of a run whose command ends with a result. -/
def Outcome.ofResult : Except Failure Unit → Outcome
  | .ok () => .done
  | .error failure => .failed failure

theorem Outcome.code_ofResult_eq_zero {result : Except Failure Unit} :
    (Outcome.ofResult result).code = 0 ↔ result = .ok () := by
  cases result with
  | ok => exact iff_of_true rfl rfl
  | error failure => exact iff_of_false nofun nofun

/-! ## From the command line to the command -/

/-- The machine on which the command of an invocation is done, after the settings were loaded and
the log was started. -/
def started (env : Environment) (invocation : Invocation) (s : Machine) : Machine :=
  let logging := (Settings.inUse s.files s.working (settingsPath env invocation)).logging
  s.logStarted (env.filter (Session.logLevel invocation logging)) logging.json logging.file

theorem runOn_of_read {s : Machine} (hsink : s.sink = none)
    (hread : CommandLine.read arguments = .ok invocation) :
    runOn env arguments s =
      (outcomeOf (Session.perform
        (Settings.inUse s.files s.working (settingsPath env invocation))
        (settingsPath env invocation) invocation.command) (started env invocation s)).map
          Outcome.ofResult id := by
  have hload := Settings.run_load (settingsPath env invocation) hsink
  have hsession : (Session.run env invocation : StateM Machine (Except Failure Unit)).run s =
      outcomeOf (Session.perform (Settings.inUse s.files s.working (settingsPath env invocation))
        (settingsPath env invocation) invocation.command) (started env invocation s) := by
    unfold Session.run
    rw [StateT.run_bind, ← settingsPath, hload]
    rfl
  unfold runOn Program.run
  rw [hread]
  dsimp only
  rw [StateT.run_bind, hsession]
  rcases outcomeOf _ (started env invocation s) with ⟨_ | _, s'⟩ <;> rfl

/-- A command line that asks for a command with the settings of a file. -/
def Asks (env : Environment) (arguments : List String) (path : FilePath) (command : Command) :
    Prop :=
  ∃ invocation, CommandLine.read arguments = .ok invocation ∧ settingsPath env invocation = path ∧
    invocation.command = command

/-- A machine on which nothing was done but to start the log. -/
structure Started (files : FileSystem) (working : Location) (logging : LoggingSettings)
    (s : Machine) : Prop where
  printed_eq : s.printed = ""
  working_eq : s.working = working
  ready : s.LogReady
  logsTo : ∀ l, s.LogsTo l → logging.file.bind (FilePath.filePlace? working) = some l
  sameBut : SameBut s.LogsTo files s.files
  files_eq : s.files = filesWithLog files working logging.file

/-- What a run does is what its command does on a machine with a started log. -/
theorem runOn_of_asks (h : Asks env arguments path command) (timestamp : String) :
    ∃ s result s', Started files working (Settings.inUse files working path).logging s ∧
      outcomeOf (Session.perform (Settings.inUse files working path) path command) s =
        (result, s') ∧
      runOn env arguments (fresh files working timestamp) = (Outcome.ofResult result, s') := by
  obtain ⟨invocation, hread, rfl, rfl⟩ := h
  let s := fresh files working timestamp
  let logging := (Settings.inUse files working (settingsPath env invocation)).logging
  let filter := env.filter (Session.logLevel invocation logging)
  obtain ⟨hprinted, hworking⟩ := s.logStarted_unchanged filter logging.json logging.file
  obtain ⟨hready, hlogs, hfiles⟩ := s.logStarted_spec filter logging.json logging.file rfl
  have hopened := s.files_logStarted filter logging.json logging.file
  exact ⟨started env invocation s, _, _, ⟨hprinted, hworking, hready, hlogs, hfiles, hopened⟩, rfl,
    runOn_of_read rfl hread⟩

/-! ## What is written -/

theorem runOn_of_stop {stop : CommandLine.Stop} (h : CommandLine.read arguments = .error stop)
    (s : Machine) : (runOn env arguments s).2.files = s.files := by
  unfold runOn Program.run
  rw [h]
  cases stop <;> rfl

/-- Where the log goes is not the settings file itself. -/
def LogsElsewhere (working : Location) (logging : LoggingSettings) (path : FilePath) : Prop :=
  ∀ l, logging.file.bind (FilePath.filePlace? working) = some l → path.filePlace? working ≠ some l

theorem Started.elsewhere {logging : LoggingSettings} {s : Machine}
    (h : Started files working logging s) (hother : LogsElsewhere working logging path)
    (l : Location) (hl : s.LogsTo l) : path.filePlace? s.working ≠ some l := by
  rw [h.working_eq]
  exact hother l (h.logsTo l hl)

/-- The lines about an edited selection: the mode, the selection as it is saved, and the numbers of
the monitors that are required besides, if there are any. -/
def editedLines (fullscreen : FullscreenSettings) (required : SortedSet Nat) : String :=
  "Mode: " ++ fullscreen.mode.name ++ "\n" ++
    "Selection: \"" ++ fullscreen.selection ++ "\"\n" ++
    if required = ∅ then ""
    else "Also required: " ++
      String.intercalate "," (required.toList.map fun position => toString (position + 1)) ++ "\n"

/-- How a run of `select` ends and what it prints, given the settings and the required positions
that the edit leads to, or why it fails. -/
def Shows (result : Except Failure (FullscreenSettings × SortedSet Nat)) (dryRun : Bool)
    (path : FilePath) (outcome : Outcome) (printed : String) : Prop :=
  match result with
  | .error failure => outcome = .failed failure ∧ printed = ""
  | .ok (fullscreen, required) =>
    let shown := editedLines fullscreen required
    if dryRun then
      outcome = .done ∧ printed = shown ++ "\nDry run; configuration not saved.\n"
    else outcome = .done ∧ printed = shown ++ ("\nSaved to " ++ path ++ "\n") ∨
      ∃ e, outcome = .failed (.file e) ∧ printed = shown

/-- A saved selection is shown as it is, since nothing in it needs an escape. -/
theorem report_edited (a : Arrangement) :
    Report.edited a.settings.value a.required = editedLines a.settings.value a.required := by
  have hquote : Text.quote a.settings.value.selection =
      "\"" ++ a.settings.value.selection ++ "\"" :=
    SelectionText.quote_ofPositions a.selection.positions
  have hopen : "Selection: \"" = "Selection: " ++ "\"" := rfl
  have hclose : "\"\n" = "\"" ++ "\n" := rfl
  rw [Report.edited, editedLines, hquote, hopen, hclose]
  simp only [Report.lines, Report.modeLine, SortedSet.isEmpty_iff, List.cons_append,
    List.nil_append, List.map_cons, String.join_cons, String.append_assoc, -String.reduceAppend]
  split <;> simp only [List.map_cons, List.map_nil, String.join_cons, String.join_nil,
    String.append_empty, String.append_assoc, -String.reduceAppend]

section Elsewhere

variable (hother : LogsElsewhere working (Settings.inUse files working path).logging path)
include hother

theorem changed_of_run (h : Asks env arguments path command) (timestamp : String) {l : Location}
    (hchanged : (runOn env arguments (fresh files working timestamp)).2.files.file? l ≠
      files.file? l) :
    (Settings.inUse files working path).logging.file.bind (FilePath.filePlace? working) = some l ∨
      path.filePlace? working = some l ∧
        (runOn env arguments (fresh files working timestamp)).1.code = 0 ∧
          ∃ file edit, command = .select file edit false := by
  obtain ⟨s, result, s', hstarted, hrun, heq⟩ := runOn_of_asks h timestamp
  rw [heq] at hchanged ⊢
  have hmem {changed : Location → Prop} (hsub : ∀ l, s.LogsTo l → changed l)
      (hfiles : Evolves changed s.files s'.files) : changed l :=
    Classical.byContradiction fun hl =>
      hchanged (((hstarted.sameBut.mono hsub).evolves.trans hfiles).file l hl)
  rcases Session.perform_cases hstarted.ready (hstarted.elsewhere hother) hrun with
    ⟨⟨text, htold⟩, -⟩ | ⟨file, edit, a, rfl, hedited, hattempted⟩
  · exact .inl (hstarted.logsTo l (hmem (fun _ => id) (htold.files hstarted.ready).evolves))
  · cases hattempted with
    | saved hprinted hplace hfiles hread =>
      rw [hstarted.working_eq] at hplace hfiles
      rcases hmem (fun _ => .inl) hfiles with hl | rfl
      · exact .inl (hstarted.logsTo l hl)
      · exact .inr ⟨hplace, rfl, file, edit, rfl⟩
    | unsaved e hprinted hfiles huse => exact .inl (hstarted.logsTo l (hmem (fun _ => id) hfiles))

theorem shows_of_run {file : Option FilePath} {edit : Edit} {dryRun : Bool}
    (h : Asks env arguments path (.select file edit dryRun)) (timestamp : String) :
    let settings := Settings.inUse files working path
    let edited := Session.editedAmong (filesWithLog files working settings.logging.file) working
      settings file edit
    let run := runOn env arguments (fresh files working timestamp)
    Shows (edited.map fun a => (a.settings.value, a.required)) dryRun path run.1 run.2.printed ∧
      (dryRun = false → run.1.code = 0 → ∃ a, edited = .ok a ∧
        Settings.readFrom run.2.files working path =
          .ok { settings with fullscreen := a.settings.value }) := by
  intro settings edited run
  obtain ⟨s, result, s', hstarted, hrun, heq⟩ := runOn_of_asks h timestamp
  rw [show run = _ from heq]
  have hedited : Session.editedAmong s.files s.working settings file edit = edited := by
    rw [hstarted.files_eq, hstarted.working_eq]
  cases hvalue : edited with
  | error failure =>
    obtain ⟨s'', hrun', htold⟩ :=
      Session.tells_editSelection_of_error path dryRun (hedited.trans hvalue)
    obtain ⟨rfl, rfl⟩ := Prod.mk.inj (hrun.symm.trans hrun')
    refine ⟨⟨rfl, ?_⟩, nofun⟩
    rw [htold.printed, hstarted.printed_eq, String.append_empty]
  | ok a =>
    cases dryRun with
    | true =>
      obtain ⟨s'', hrun', htold⟩ := Session.tells_dryRun (hedited.trans hvalue) path
      obtain ⟨rfl, rfl⟩ := Prod.mk.inj (hrun.symm.trans hrun')
      refine ⟨⟨rfl, ?_⟩, nofun⟩
      rw [htold.printed, hstarted.printed_eq, String.empty_append, report_edited]
      rfl
    | false =>
      cases Session.attempted_of_edited hstarted.ready (hstarted.elsewhere hother)
        (hedited.trans hvalue) hrun with
      | saved hprinted hplace hfiles hread =>
        rw [hstarted.printed_eq, String.empty_append, report_edited] at hprinted
        rw [hstarted.working_eq] at hread
        exact ⟨.inl ⟨rfl, hprinted⟩, fun _ _ => ⟨a, rfl, hread⟩⟩
      | unsaved e hprinted hfiles huse =>
        rw [hstarted.printed_eq, String.empty_append, report_edited] at hprinted
        exact ⟨.inr ⟨e, rfl, hprinted⟩, nofun⟩

end Elsewhere

/-- What a run may write. Where the command line gives no command, no file changes. Otherwise let
`path` be the settings file and `settings` what is loaded from it, and let the log go elsewhere.
Then a file that the run makes or changes is that of the log, or it is the settings file and the run
is one of `select`, not a dry run, that exits with code 0. An edit of a layout has one result: a run
that asks for it fails as the result does, with nothing printed, or prints the resulting mode,
selection and required monitors, whether or not it is a dry run, is verbose or can save; and when it
exits with code 0 and is no dry run, the settings are read back with only their `fullscreen` section
replaced by what was printed. -/
theorem run_writes (files : FileSystem) (working : Location) :
    (∀ timestamp env arguments stop, CommandLine.read arguments = .error stop →
      (runOn env arguments (fresh files working timestamp)).2.files = files) ∧
    ∀ path, ∃ settings,
      (∀ timestamp, (Settings.load path : StateM Machine Settings).run
        (fresh files working timestamp) = (settings, fresh files working timestamp)) ∧
      ((∀ l, settings.logging.file.bind (FilePath.filePlace? working) = some l →
          path.filePlace? working ≠ some l) →
        (∀ timestamp env arguments command, Asks env arguments path command →
          let run := runOn env arguments (fresh files working timestamp)
          ∀ l, run.2.files.file? l ≠ files.file? l →
            settings.logging.file.bind (FilePath.filePlace? working) = some l ∨
              path.filePlace? working = some l ∧ run.1.code = 0 ∧
                ∃ file edit, command = .select file edit false) ∧
        ∀ file edit, ∃ result, ∀ timestamp env arguments dryRun,
          Asks env arguments path (.select file edit dryRun) →
            let run := runOn env arguments (fresh files working timestamp)
            Shows result dryRun path run.1 run.2.printed ∧
              (dryRun = false → run.1.code = 0 → ∃ fullscreen required,
                result = .ok (fullscreen, required) ∧
                  (outcomeOf (Settings.read path) (fresh run.2.files working timestamp)).1 =
                    .ok { settings with fullscreen })) := by
  refine ⟨fun timestamp env arguments stop h => runOn_of_stop h _, fun path => ?_⟩
  let settings := Settings.inUse files working path
  let edited (file : Option FilePath) (edit : Edit) := Session.editedAmong
    (filesWithLog files working settings.logging.file) working settings file edit
  refine ⟨settings, fun timestamp => Settings.run_load path rfl, fun hother => ⟨?_, ?_⟩⟩
  · intro timestamp env arguments command h run l
    exact changed_of_run hother h timestamp
  · intro file edit
    refine ⟨(edited file edit).map fun a => (a.settings.value, a.required), ?_⟩
    intro timestamp env arguments dryRun h run
    obtain ⟨hshows, hsaved⟩ := shows_of_run hother h timestamp
    refine ⟨hshows, fun hdry hcode => ?_⟩
    obtain ⟨a, hedited, hread⟩ := hsaved hdry hcode
    refine ⟨a.settings.value, a.required, ?_, ?_⟩
    · rw [show edited file edit = .ok a from hedited]
      rfl
    · rw [Settings.outcomeOf_read]
      exact hread

/-- The text of a layout of one display. -/
def oneDisplay : String :=
  "\x7b\"displays\":[\x7b\"x\":0,\"y\":0,\"width\":100,\"height\":100\x7d]\x7d"

/-- The text of a layout of three displays in a row. -/
def threeDisplays : String :=
  "\x7b\"displays\":[\x7b\"x\":0,\"y\":0,\"width\":9,\"height\":9\x7d," ++
    "\x7b\"x\":9,\"y\":0,\"width\":9,\"height\":9\x7d," ++
    "\x7b\"x\":18,\"y\":0,\"width\":9,\"height\":9\x7d]\x7d"

/-- Without settings at first, toggling the outer two of three displays makes the settings file and
nothing else. The run prints what it saves, and the middle display as required besides; so does a
dry run, which changes no file. -/
theorem run_writes_settings_of_three_displays :
    let files : FileSystem := ⟨[(["l"], .file threeDisplays.toUTF8)]⟩
    let arguments := ["-c", "c", "select", "l", "-t", "1", "-t", "3"]
    let run := runOn {} arguments (fresh files [] "")
    let dry := runOn {} (arguments ++ ["--dry-run"]) (fresh files [] "")
    let shown := "Mode: selected\nSelection: \"1,3\"\nAlso required: 2\n"
    Asks {} arguments "c" (.select (some "l") { toggles := [1, 3] } false) ∧
      Asks {} (arguments ++ ["--dry-run"]) "c" (.select (some "l") { toggles := [1, 3] } true) ∧
      (run.1 = .done ∧ run.2.printed = shown ++ "\nSaved to c\n" ∧
        ∀ l, run.2.files.file? l ≠ files.file? l → l = ["c"]) ∧
      (dry.1 = .done ∧ dry.2.printed = shown ++ "\nDry run; configuration not saved.\n" ∧
        ∀ l, dry.2.files.file? l = files.file? l) ∧
      ∃ fullscreen required, shown = editedLines fullscreen required ∧
        (outcomeOf (Settings.read "c") (fresh run.2.files [] "")).1 = .ok { fullscreen } := by
  intro files arguments run dry shown
  have hasks : Asks {} arguments "c" (.select (some "l") { toggles := [1, 3] } false) :=
    ⟨_, rfl, rfl, rfl⟩
  have hasksDry : Asks {} (arguments ++ ["--dry-run"]) "c"
      (.select (some "l") { toggles := [1, 3] } true) := ⟨_, rfl, rfl, rfl⟩
  have hdone : run.1 = .done ∧ run.2.printed = shown ++ "\nSaved to c\n" := by decide +kernel
  have hdoneDry : dry.1 = .done ∧
      dry.2.printed = shown ++ "\nDry run; configuration not saved.\n" := by decide +kernel
  have hrun : runOn {} arguments (fresh files [] "") = run := rfl
  have hdry : runOn {} (arguments ++ ["--dry-run"]) (fresh files [] "") = dry := rfl
  -- From here on the runs are only what the theorem says of them.
  clear_value run dry
  obtain ⟨settings, hload, hrest⟩ := (run_writes files []).2 "c"
  have hdefault :
      ((Settings.load "c" : StateM Machine Settings).run (fresh files [] "")).1 = {} := by
    decide +kernel
  obtain rfl : settings = {} := by rwa [hload ""] at hdefault
  obtain ⟨hchanged, hshown⟩ := hrest nofun
  obtain ⟨result, hshown⟩ := hshown (some "l") { toggles := [1, 3] }
  have hchangedDry := hchanged "" {} _ _ hasksDry
  specialize hchanged "" {} arguments _ hasks
  specialize hshown "" {} arguments false hasks
  rw [hrun] at hchanged hshown
  rw [hdry] at hchangedDry
  refine ⟨hasks, hasksDry, ⟨hdone.1, hdone.2, fun l hl => ?_⟩,
    ⟨hdoneDry.1, hdoneDry.2, fun l => ?_⟩, ?_⟩
  · rcases hchanged l hl with hlog | ⟨hplace, -⟩
    · cases hlog
    · exact (Option.some.inj hplace).symm
  · by_contra hl
    rcases hchangedDry l hl with hlog | ⟨-, -, file, edit, hcommand⟩
    · cases hlog
    · cases hcommand
  · obtain ⟨fullscreen, required, hresult, hread⟩ :=
      hshown.2 rfl (congrArg Outcome.code hdone.1)
    refine ⟨fullscreen, required, ?_, hread⟩
    have hshows := hshown.1
    rw [hresult] at hshows
    rcases hshows with ⟨-, hprinted⟩ | ⟨e, hfailed, -⟩
    · exact (String.append_left_inj _).1 (hdone.2.symm.trans hprinted)
    · cases hdone.1.symm.trans hfailed

end Multihead.Program
