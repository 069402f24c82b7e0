import Multihead.Proofs.Arrangement.Restore
import Multihead.Proofs.Edit
import Multihead.Proofs.Program

/-!
# Edits through the settings file

A run of `select` loads the arrangement that was saved, edits it and saves the result. Since the
saved settings give back the arrangement that they were made of (`restore_settings`), a sequence of
such runs comes to what its edits come to in memory, where those that did not succeed count for
nothing (`saved_edits_eq_edits_in_memory`). The invariant that carries it is `Saved`: which
arrangement the settings file gives, and that nothing else about the settings and the layout has
changed. One run keeps it (`saved_of_run`), since all that it does to the settings is to replace
their `fullscreen` section (`inUse_of_run`), and so does a sequence of runs (`saved_of_launchAll`).
-/

namespace Multihead.Program

open Machine FileSystem

variable {files files' : FileSystem} {working : Location} {path layoutPath : FilePath}
  {layout : Layout} {settings : Settings} {a b : Arrangement} {edit : Edit}
  {changed : Location → Prop}

/-! ## Saving and loading an arrangement -/

/-- The monitors of a layout in a mode, with nothing selected. -/
def unselected (layout : Layout) (mode : FullscreenMode) : Arrangement :=
  { (Arrangement.ofSource layout.source).value with mode }

/-- The saved settings are applied to what their mode makes of the layout. -/
theorem value_restore (layout : Layout) (fullscreen : FullscreenSettings) :
    (Session.restore layout fullscreen).value =
      ((Arrangement.applySettings fullscreen).on (unselected layout fullscreen.mode)).value.2 := by
  rw [Session.restore, Logged.value_bind, Logged.value_bind, Logged.value_bind]
  split
  next outcome b happlied =>
    refine Eq.trans ?_ (congrArg Prod.snd happlied).symm
    -- a text that cannot be read adds a record, and no more
    cases outcome <;> rfl

/-- The default settings select nothing. -/
theorem value_restore_default (layout : Layout) :
    (Session.restore layout {}).value = unselected layout .current := by
  have hparse : SelectionText.parse "" = .ok (.positions ∅) := rfl
  obtain ⟨-, -, hstart⟩ := Arrangement.ofDisplays_start layout.source.enumerate.value
  rw [value_restore, Arrangement.on_applySettings, hparse]
  exact Arrangement.eq_of_positions_eq rfl rfl hstart.symm

theorem catalog_on_applySettings (a : Arrangement) (fullscreen : FullscreenSettings) :
    ((Arrangement.applySettings fullscreen).on a).value.2.catalog = a.catalog := by
  rw [Arrangement.on_applySettings]
  cases SelectionText.parse fullscreen.selection with
  | error e => rfl
  | ok said => cases said <;> rfl

theorem catalog_restore (layout : Layout) (fullscreen : FullscreenSettings) :
    (Session.restore layout fullscreen).value.catalog =
      (Arrangement.ofSource layout.source).value.catalog := by
  rw [value_restore, catalog_on_applySettings]
  rfl

/-- There are no more monitors than displays in the layout. -/
theorem count_ofSource_le (layout : Layout) :
    (Arrangement.ofSource layout.source).value.count ≤ layout.displays.length := by
  let displays := layout.source.enumerate.value
  have hcount : (Arrangement.ofDisplays displays).value.count = displays.length := by
    cases displays with
    | nil => rfl
    | cons d rest => exact (Catalog.perm_ofDisplays (d :: rest)).length_eq
  calc (Arrangement.ofSource layout.source).value.count
      = displays.length := hcount
    _ ≤ (List.range layout.displays.length).length := List.length_filterMap_le _ _
    _ = layout.displays.length := List.length_range

/-- What is saved of an arrangement of the layout's monitors gives it back. -/
theorem restore_settings (hcatalog : a.catalog = (Arrangement.ofSource layout.source).value.catalog)
    (hcount : a.count ≤ 2147483647) :
    (Session.restore layout a.settings.value).value = a := by
  have hstart : (unselected layout a.mode).catalog = a.catalog := hcatalog.symm
  obtain ⟨-, report, restored, records, happly, -, -, -, -, hwhole⟩ :=
    Arrangement.applySettings_settings hstart
  obtain rfl : restored = a := hwhole hcount
  rw [value_restore]
  exact congrArg (fun outcome => outcome.value.2) happly

theorem layoutFrom_eq_ok_iff :
    Session.layoutFrom files working path = .ok layout ↔
      ∃ text, files.readText working path = .ok text ∧
        Json.parse Layout.reader text = .ok layout := by
  simp only [Session.layoutFrom, bind_eq_ok_iff, mapError_eq_ok_iff]

/-- A layout is found exactly if it can be read from the file to use. -/
theorem layoutAmong_eq_ok_iff {file : Option FilePath} :
    Session.layoutAmong files working settings file = .ok layout ↔
      ∃ path, file.or settings.layoutFile = some path ∧
        Session.layoutFrom files working path = .ok layout := by
  unfold Session.layoutAmong
  cases file.or settings.layoutFile with
  | none => exact iff_of_false nofun nofun
  | some path =>
    dsimp only
    split
    · exact ⟨fun h => ⟨path, rfl, h⟩, fun ⟨_, rfl, h⟩ => h⟩
    · next hexists =>
      refine iff_of_false nofun ?_
      rintro ⟨path', hpath, h⟩
      obtain rfl := Option.some.inj hpath
      obtain ⟨text, htext, -⟩ := layoutFrom_eq_ok_iff.1 h
      exact hexists (exists?_of_readText htext)

/-- Where only other files change, the layout stays as it is. -/
theorem layoutFrom_of_evolves (h : Evolves changed files files')
    (hother : ∀ l, changed l → path.filePlace? working ≠ some l)
    (hread : Session.layoutFrom files working path = .ok layout) :
    Session.layoutFrom files' working path = .ok layout := by
  obtain ⟨text, htext, hparse⟩ := layoutFrom_eq_ok_iff.1 hread
  have hplace : ¬ changed (path.place working) :=
    fun hchanged => hother _ hchanged (filePlace?_of_readText htext)
  exact layoutFrom_eq_ok_iff.2 ⟨text, h.readText hplace htext, hparse⟩

/-! ## One run -/

/-- The settings file, the layout file and the file of the log are different files. -/
structure Apart (working : Location) (path layoutPath : FilePath) (log : Option FilePath) :
    Prop where
  layout_ne : path.filePlace? working ≠ layoutPath.filePlace? working
  log_ne : ∀ l, log.bind (FilePath.filePlace? working) = some l →
    path.filePlace? working ≠ some l ∧ layoutPath.filePlace? working ≠ some l

/-- The settings file gives the arrangement `a` of the layout, and as to the rest the settings. -/
structure Saved (working : Location) (path layoutPath : FilePath) (settings : Settings)
    (layout : Layout) (files : FileSystem) (a : Arrangement) : Prop where
  layout_eq : Session.layoutFrom files working layoutPath = .ok layout
  settings_eq : ∃ fullscreen, Settings.inUse files working path = { settings with fullscreen } ∧
    (Session.restore layout fullscreen).value = a

theorem Saved.catalog_eq (h : Saved working path layoutPath settings layout files a) :
    a.catalog = (Arrangement.ofSource layout.source).value.catalog := by
  obtain ⟨fullscreen, -, rfl⟩ := h.settings_eq
  exact catalog_restore layout fullscreen

/-- To edit what the settings give is to edit the arrangement that is restored from them. -/
theorem editedAmong_eq {file : Option FilePath}
    (hlayout : Session.layoutFrom files working layoutPath = .ok layout)
    (hfile : file.or settings.layoutFile = some layoutPath) :
    Session.editedAmong files working settings file edit =
      (edit.apply (Session.restore layout settings.fullscreen).value).run.value := by
  have hamong : Session.layoutAmong files working settings file = .ok layout :=
    layoutAmong_eq_ok_iff.2 ⟨layoutPath, hfile, hlayout⟩
  rw [Session.editedAmong, Session.arrangementAmong, hamong]
  rfl

section Run

variable {env : Environment} {arguments : List String} {file : Option FilePath}
  {timestamp : String} {outcome : Outcome} {after : Machine}

/-- A run replaces the `fullscreen` section by what its edit makes of the arrangement that the
settings give, or it leaves the settings as they are. The layout stays either way. -/
theorem inUse_of_run (huse : Settings.inUse files working path = settings)
    (hlayout : Session.layoutFrom files working layoutPath = .ok layout)
    (hapart : Apart working path layoutPath settings.logging.file)
    (hfile : file.or settings.layoutFile = some layoutPath)
    (hasks : Asks env arguments path (.select file edit false))
    (hresult : runOn env arguments (fresh files working timestamp) = (outcome, after)) :
    Session.layoutFrom after.files working layoutPath = .ok layout ∧
      ((outcome.code = 0 ∧ ∃ b,
        (edit.apply (Session.restore layout settings.fullscreen).value).run.value = .ok b ∧
          Settings.inUse after.files working path =
            { settings with fullscreen := b.settings.value }) ∨
      outcome.code ≠ 0 ∧ Settings.inUse after.files working path = settings) := by
  obtain ⟨s, result, s', hstarted, hrun, heq⟩ := runOn_of_asks hasks timestamp
  obtain ⟨rfl, rfl⟩ := Prod.mk.inj (hresult.symm.trans heq)
  obtain rfl := hstarted.working_eq
  rw [huse] at hstarted hrun
  have hlog (l : Location) (hl : s.LogsTo l) :
      path.filePlace? s.working ≠ some l ∧ layoutPath.filePlace? s.working ≠ some l :=
    hapart.log_ne l (hstarted.logsTo l hl)
  -- To start the log changes neither file, so the command finds what was there.
  have hlayout' : Session.layoutFrom s.files s.working layoutPath = .ok layout :=
    layoutFrom_of_evolves hstarted.sameBut.evolves (fun l hl => (hlog l hl).2) hlayout
  have huse' : Settings.inUse s.files s.working path = settings :=
    (Settings.inUse_of_sameBut hstarted.sameBut fun l hl => (hlog l hl).1).trans huse
  rcases Session.perform_cases hstarted.ready (fun l hl => (hlog l hl).1) hrun with
    ⟨⟨text, htold⟩, hunsaved⟩ | ⟨file', edit', b, hcommand, hedited, hattempted⟩
  · have hfiles := htold.files hstarted.ready
    refine ⟨layoutFrom_of_evolves hfiles.evolves (fun l hl => (hlog l hl).2) hlayout', .inr ?_⟩
    refine ⟨fun hcode => ?_, ?_⟩
    · exact hunsaved (Outcome.code_ofResult_eq_zero.1 hcode) file edit rfl
    · exact (Settings.inUse_of_sameBut hfiles fun l hl => (hlog l hl).1).trans huse'
  · obtain ⟨rfl, rfl, -⟩ := Command.select.inj hcommand
    rw [editedAmong_eq hlayout' hfile] at hedited
    cases hattempted with
    | saved hprinted hpath hfiles hread =>
      have hother (l : Location) (hl : s.LogsTo l ∨ l = path.place s.working) :
          layoutPath.filePlace? s.working ≠ some l := by
        rcases hl with hl | rfl
        · exact (hlog l hl).2
        · exact fun hplace => hapart.layout_ne (hpath.trans hplace.symm)
      exact ⟨layoutFrom_of_evolves hfiles hother hlayout',
        .inl ⟨rfl, b, hedited, Settings.inUse_of_readFrom hread⟩⟩
    | unsaved e hprinted hfiles hkept =>
      exact ⟨layoutFrom_of_evolves hfiles (fun l hl => (hlog l hl).2) hlayout',
        .inr ⟨nofun, hkept.trans huse'⟩⟩

/-- A run saves what its edit makes of the saved arrangement, or it leaves that as it is. -/
theorem saved_of_run (hapart : Apart working path layoutPath settings.logging.file)
    (hfile : file.or settings.layoutFile = some layoutPath)
    (h : Saved working path layoutPath settings layout files a) (hcount : a.count ≤ 2147483647)
    (hasks : Asks env arguments path (.select file edit false))
    (hresult : runOn env arguments (fresh files working timestamp) = (outcome, after)) :
    (outcome.code = 0 ∧ ∃ b, (edit.apply a).run.value = .ok b ∧
      Saved working path layoutPath settings layout after.files b) ∨
    outcome.code ≠ 0 ∧ Saved working path layoutPath settings layout after.files a := by
  have hcatalog := h.catalog_eq
  obtain ⟨fullscreen, huse, rfl⟩ := h.settings_eq
  obtain ⟨hlayout, ⟨hcode, b, happly, huse'⟩ | ⟨hcode, huse'⟩⟩ :=
    inUse_of_run huse h.layout_eq hapart hfile hasks hresult
  · have hcatalog' : b.catalog = _ := Edit.catalog_apply happly
    have hcount' : b.count ≤ 2147483647 := by
      rwa [Arrangement.count, hcatalog']
    refine .inl ⟨hcode, b, happly, hlayout, b.settings.value, huse', ?_⟩
    exact restore_settings (hcatalog'.trans hcatalog) hcount'
  · exact .inr ⟨hcode, hlayout, fullscreen, huse', rfl⟩

end Run

/-! ## Sequences of runs -/

/-- A run to come: its environment, its arguments and the time of its records. -/
structure Launch where
  env : Environment
  arguments : List String
  timestamp : String

/-- Run the program several times, each time on the files that the last run left: the outcomes, and
the files in the end. -/
def launchAll (working : Location) : FileSystem → List Launch → List Outcome × FileSystem
  | files, [] => ([], files)
  | files, launch :: launches =>
    let (outcome, after) := runOn launch.env launch.arguments (fresh files working launch.timestamp)
    let (outcomes, files) := launchAll working after.files launches
    (outcome :: outcomes, files)

/-- Those edits whose runs exited with code 0. -/
def succeeded (edits : List Edit) (outcomes : List Outcome) : List Edit :=
  (edits.zip outcomes).filterMap fun (edit, outcome) => if outcome.code = 0 then some edit else none

theorem succeeded_cons (edit : Edit) (edits : List Edit) (outcome : Outcome)
    (outcomes : List Outcome) :
    succeeded (edit :: edits) (outcome :: outcomes) =
      if outcome.code = 0 then edit :: succeeded edits outcomes else succeeded edits outcomes := by
  unfold succeeded
  rw [List.zip_cons_cons, List.filterMap_cons]
  by_cases hcode : outcome.code = 0 <;> simp [hcode]

/-- The launch is to edit the selection of the layout that is saved at a path. -/
def Launch.Edits (path layoutPath : FilePath) (settings : Settings) (launch : Launch)
    (edit : Edit) : Prop :=
  ∃ file, file.or settings.layoutFile = some layoutPath ∧
    Asks launch.env launch.arguments path (.select file edit false)

theorem saved_of_launchAll {launches : List Launch} {edits : List Edit} {outcomes : List Outcome}
    {after : FileSystem} (hapart : Apart working path layoutPath settings.logging.file)
    (hedits : List.Forall₂ (Launch.Edits path layoutPath settings) launches edits)
    (h : Saved working path layoutPath settings layout files a) (hcount : a.count ≤ 2147483647)
    (hrun : launchAll working files launches = (outcomes, after)) :
    ∃ b, Edit.applyAll a (succeeded edits outcomes) = .ok b ∧
      Saved working path layoutPath settings layout after b := by
  -- Each launch finds the arrangement that those before it have saved.
  induction hedits generalizing files a outcomes with
  | nil =>
    obtain ⟨rfl, rfl⟩ := Prod.mk.inj hrun
    exact ⟨a, rfl, h⟩
  | @cons launch edit launches edits hedit _ ih =>
    obtain ⟨file, hfile, hasks⟩ := hedit
    rw [launchAll] at hrun
    rcases hfirst : runOn launch.env launch.arguments (fresh files working launch.timestamp) with
      ⟨outcome, after₁⟩
    rcases hrest : launchAll working after₁.files launches with ⟨outcomes₁, after₂⟩
    simp only [hfirst, hrest] at hrun
    obtain ⟨rfl, rfl⟩ := Prod.mk.inj hrun
    rw [succeeded_cons]
    rcases saved_of_run hapart hfile h hcount hasks hfirst with
      ⟨hcode, b, happly, hsaved⟩ | ⟨hcode, hsaved⟩
    · have hcount' : b.count ≤ 2147483647 := by
        rwa [Arrangement.count, Edit.catalog_apply happly]
      rw [if_pos hcode, Edit.applyAll, List.foldlM_cons, happly]
      exact ih hsaved hcount' hrest
    · rw [if_neg hcode]
      exact ih hsaved hcount hrest

/-- The arrangement of a layout that the program finds saved, when it is run. -/
def savedArrangement (files : FileSystem) (working : Location) (path layoutPath : FilePath)
    (timestamp : String) : Except Failure Arrangement :=
  let (settings, s) := (Settings.load path : StateM Machine Settings).run
    (fresh files working timestamp)
  (outcomeOf (Session.loadArrangement settings (some layoutPath)) s).1

theorem savedArrangement_eq (files : FileSystem) (working : Location) (path layoutPath : FilePath)
    (timestamp : String) :
    savedArrangement files working path layoutPath timestamp =
      Session.arrangementAmong files working (Settings.inUse files working path)
        (some layoutPath) := by
  let s := fresh files working timestamp
  have hload : (Settings.load path : StateM Machine Settings).run s =
      (Settings.inUse files working path, s) := Settings.run_load path rfl
  obtain ⟨s', hrun, -⟩ := Session.tells_loadArrangement s (Settings.inUse files working path)
    (some layoutPath)
  unfold savedArrangement
  rw [hload]
  exact congrArg (·.1) hrun

theorem Saved.savedArrangement_eq (h : Saved working path layoutPath settings layout files a)
    (timestamp : String) : savedArrangement files working path layoutPath timestamp = .ok a := by
  obtain ⟨fullscreen, huse, hrestore⟩ := h.settings_eq
  have hlayout : Session.layoutAmong files working (Settings.inUse files working path)
      (some layoutPath) = .ok layout := layoutAmong_eq_ok_iff.2 ⟨layoutPath, rfl, h.layout_eq⟩
  rw [Program.savedArrangement_eq, Session.arrangementAmong, hlayout, huse]
  exact congrArg Except.ok hrestore

/-- Editing through the settings file is editing in memory. Take any settings file and a layout that
can be read, with no more displays than have a written position, and let the layout, the settings
and the log be different files. Run any number of edits that are to be saved. Then the arrangement
that is found saved in the end is what the edits of those runs that exited with code 0, and of no
others, make of the arrangement that was found saved in the beginning, without any file between
them. -/
theorem saved_edits_eq_edits_in_memory {text timestamp : String} {launches : List Launch}
    {edits : List Edit}
    (hlayout : files.readText working layoutPath = .ok text)
    (hparse : Json.parse Layout.reader text = .ok layout)
    (hcount : layout.displays.length ≤ 2147483647)
    (hload : ((Settings.load path : StateM Machine Settings).run
      (fresh files working timestamp)).1 = settings)
    (hapart : Apart working path layoutPath settings.logging.file)
    (hedits : List.Forall₂ (Launch.Edits path layoutPath settings) launches edits) :
    let run := launchAll working files launches
    ∃ a b, (∀ timestamp, savedArrangement files working path layoutPath timestamp = .ok a) ∧
      Edit.applyAll a (succeeded edits run.1) = .ok b ∧
        ∀ timestamp, savedArrangement run.2 working path layoutPath timestamp = .ok b := by
  have hrun : (Settings.load path : StateM Machine Settings).run (fresh files working timestamp) =
      (Settings.inUse files working path, fresh files working timestamp) :=
    Settings.run_load path rfl
  have huse : Settings.inUse files working path = settings := by rwa [hrun] at hload
  let a := (Session.restore layout settings.fullscreen).value
  have hsaved : Saved working path layoutPath settings layout files a :=
    ⟨layoutFrom_eq_ok_iff.2 ⟨text, hlayout, hparse⟩, settings.fullscreen, huse, rfl⟩
  have hcount' : a.count ≤ 2147483647 := by
    rw [Arrangement.count, hsaved.catalog_eq]
    exact (count_ofSource_le layout).trans hcount
  obtain ⟨b, happly, hafter⟩ := saved_of_launchAll hapart hedits hsaved hcount' rfl
  exact ⟨a, b, hsaved.savedArrangement_eq, happly, hafter.savedArrangement_eq⟩

/-- A launch to edit the selection of a layout. -/
def launchSelect (arguments : List String) : Launch :=
  ⟨{}, ["-c", "c", "select", "l"] ++ arguments, ""⟩

/-- Without settings at first: a display that is not there is to be toggled, then the one that is,
and another mode. -/
theorem saved_edits_of_one_display :
    let files : FileSystem := ⟨[(["l"], .file oneDisplay.toUTF8)]⟩
    let run := launchAll [] files ([["-t", "2"], ["-t", "1", "-m", "current"]].map launchSelect)
    run.1 = [.failed (.arrangement (.outOfRange 1 1)), .done] ∧
      ∃ a b, savedArrangement files [] "c" "l" "" = .ok a ∧
        Edit.applyAll a [{ toggles := [1], mode := some .current }] = .ok b ∧
          savedArrangement run.2 [] "c" "l" "" = .ok b := by
  intro files run
  have houtcomes : run.1 = [.failed (.arrangement (.outOfRange 1 1)), .done] := by
    decide +kernel
  have hedits : List.Forall₂ (Launch.Edits "c" "l" {})
      ([["-t", "2"], ["-t", "1", "-m", "current"]].map launchSelect)
      [{ toggles := [2] }, { toggles := [1], mode := some .current }] := by
    refine .cons ⟨some "l", rfl, _, rfl, rfl, rfl⟩ ?_
    exact .cons ⟨some "l", rfl, _, rfl, rfl, rfl⟩ .nil
  have hapart : Apart [] "c" "l" none := ⟨by decide, nofun⟩
  have hread : files.readText [] "l" = .ok oneDisplay := rfl
  have hparse : Json.parse Layout.reader oneDisplay = .ok ⟨[⟨⟨0, 0, 100, 100⟩, none⟩]⟩ :=
    toOption_eq_some_iff.1 (by decide +kernel)
  have hload : ((Settings.load "c" : StateM Machine Settings).run (fresh files [] "")).1 = {} := by
    decide +kernel
  obtain ⟨a, b, hbefore, happly, hafter⟩ :=
    saved_edits_eq_edits_in_memory hread hparse (by decide) hload hapart hedits
  rw [show (launchAll [] files _).1 = _ from houtcomes] at happly
  exact ⟨houtcomes, a, b, hbefore "", happly, hafter ""⟩

end Multihead.Program
