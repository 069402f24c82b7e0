import Multihead.Proofs.Program.Edits

/-!
# Settings files that cannot be read

A settings file that is there but does not give settings stands for the defaults. Nothing but a
`select` that saves touches it. That one edits the layout as the defaults have it, in the mode
`current` with nothing selected, and writes the defaults with the outcome as their `fullscreen`
section over the file (`rejected_settings_kept_iff`).
-/

namespace Multihead.Program

open Machine FileSystem

variable {files : FileSystem} {working : Location} {env : Environment} {arguments : List String}
  {path : FilePath} {content : ByteArray} {failure : Failure}

/-- From a file with the same content the same settings are read. -/
theorem readFrom_of_file?_eq {files' : FileSystem} {settings : Settings}
    (hfind : files.find working path = .ok (.file content))
    (hkept : files'.file? (path.place working) = some content)
    (hread : Settings.readFrom files' working path = .ok settings) :
    Settings.readFrom files working path = .ok settings := by
  obtain ⟨text, htext, hparse⟩ := Settings.readFrom_eq_ok_iff.1 hread
  obtain ⟨content', hfind', hutf⟩ := readText_eq_ok_iff.1 htext
  obtain rfl : content' = content :=
    Option.some.inj ((find_eq_file_iff.1 hfind').2.symm.trans hkept)
  exact Settings.readFrom_eq_ok_iff.2 ⟨text, readText_eq_ok_iff.2 ⟨_, hfind, hutf⟩, hparse⟩

/-- Under the default settings, the layout is the one that is named, with nothing selected. -/
theorem editedAmong_default_eq_ok_iff {file : Option FilePath} {edit : Edit} {a : Arrangement} :
    Session.editedAmong files working {} file edit = .ok a ↔
      ∃ layoutPath text layout, file = some layoutPath ∧
        files.readText working layoutPath = .ok text ∧
        Json.parse Layout.reader text = .ok layout ∧
        (edit.apply (unselected layout .current)).run.value = .ok a := by
  constructor
  · intro h
    obtain ⟨start, hstart, hedit⟩ := bind_eq_ok_iff.1 h
    obtain ⟨layout, hlayout, hrestore⟩ := map_eq_ok_iff.1 hstart
    obtain ⟨layoutPath, hfile, hfrom⟩ := layoutAmong_eq_ok_iff.1 hlayout
    obtain ⟨text, htext, hparse⟩ := layoutFrom_eq_ok_iff.1 hfrom
    rw [← hrestore, value_restore_default] at hedit
    exact ⟨layoutPath, text, layout, by simpa using hfile, htext, hparse, hedit⟩
  · rintro ⟨layoutPath, text, layout, rfl, htext, hparse, hedit⟩
    rw [editedAmong_eq (layoutFrom_eq_ok_iff.2 ⟨text, htext, hparse⟩) rfl]
    rwa [value_restore_default]

/-- What becomes of a settings file whose content is rejected. A run with that file leaves its
content as it is exactly unless the run is one of `select`, not a dry run, that exits with code 0.
Such a run names a layout file. Its edit succeeds on the monitors of the layout, in the mode
`current` with nothing selected, and afterwards the settings are read back as the default ones with
the mode and the selection of the outcome. -/
theorem rejected_settings_kept_iff (timestamp : String)
    (hfind : files.find working path = .ok (.file content))
    (hrejected : (outcomeOf (Settings.read path) (fresh files working timestamp)).1 =
      .error failure)
    (hpath : ∀ invocation, CommandLine.read arguments = .ok invocation →
      settingsPath env invocation = path) :
    let run := runOn env arguments (fresh files working timestamp)
    (run.2.files.file? (path.place working) = some content ↔
      ¬ (run.1.code = 0 ∧ ∃ file edit, Asks env arguments path (.select file edit false))) ∧
    ∀ file edit, Asks env arguments path (.select file edit false) → run.1.code = 0 →
      ∃ layoutPath text layout a, file = some layoutPath ∧
        files.readText working layoutPath = .ok text ∧
        Json.parse Layout.reader text = .ok layout ∧
        (edit.apply (unselected layout .current)).run.value = .ok a ∧
        (outcomeOf (Settings.read path) (fresh run.2.files working timestamp)).1 =
          .ok { fullscreen := a.settings.value } := by
  intro run
  rw [Settings.outcomeOf_read] at hrejected
  replace hrejected : Settings.readFrom files working path = .error failure := hrejected
  have hdefault : Settings.inUse files working path = {} := by
    rw [Settings.inUse, hrejected]
    rfl
  have hother : LogsElsewhere working (Settings.inUse files working path).logging path := by
    rw [hdefault]
    intro l hlog
    cases hlog
  have hfile := (find_eq_file_iff.1 hfind).2
  have hsaved {file : Option FilePath} {edit : Edit}
      (hasks : Asks env arguments path (.select file edit false)) (hcode : run.1.code = 0) :
      ∃ a, Session.editedAmong files working {} file edit = .ok a ∧
        Settings.readFrom run.2.files working path = .ok { fullscreen := a.settings.value } := by
    obtain ⟨a, hedited, hread⟩ := (shows_of_run hother hasks timestamp).2 rfl hcode
    rw [hdefault] at hedited hread
    exact ⟨a, hedited, hread⟩
  refine ⟨⟨?_, fun hunsaved => ?_⟩, fun file edit hasks hcode => ?_⟩
  -- What was saved can be read, and the content from before cannot.
  · rintro hkept ⟨hcode, file, edit, hasks⟩
    obtain ⟨a, -, hread⟩ := hsaved hasks hcode
    have hbefore := readFrom_of_file?_eq hfind hkept hread
    rw [hrejected] at hbefore
    cases hbefore
  · rw [← hfile]
    cases hread : CommandLine.read arguments with
    | error stop => rw [show run.2.files = files from runOn_of_stop hread _]
    | ok invocation =>
      have hasks : Asks env arguments path invocation.command :=
        ⟨invocation, hread, hpath invocation hread, rfl⟩
      refine Classical.byContradiction fun hchanged => ?_
      rcases changed_of_run hother hasks timestamp hchanged with
        hlog | ⟨-, hcode, file, edit, hcommand⟩
      · rw [hdefault] at hlog
        cases hlog
      · exact hunsaved ⟨hcode, file, edit, hcommand ▸ hasks⟩
  · obtain ⟨a, hedited, hread⟩ := hsaved hasks hcode
    obtain ⟨layoutPath, text, layout, hfile, htext, hparse, hedit⟩ :=
      editedAmong_default_eq_ok_iff.1 hedited
    refine ⟨layoutPath, text, layout, a, hfile, htext, hparse, hedit, ?_⟩
    rw [Settings.outcomeOf_read]
    exact hread

def notJsonText : String := "\x7b not json"

/-- A settings file that is not JSON, beside a layout of one display. -/
def notJson : FileSystem :=
  ⟨[(["config.json"], .file notJsonText.toUTF8), (["layout.json"], .file oneDisplay.toUTF8)]⟩

/-- To look at the settings in use leaves the file alone; to toggle the one monitor makes it the
defaults with this monitor selected. -/
theorem rejected_settings_kept_or_replaced :
    let looking := runOn {} ["check", "-c", "config.json"] (fresh notJson [] "")
    let arguments := ["-c", "config.json", "select", "layout.json", "-t", "1"]
    let saving := runOn {} arguments (fresh notJson [] "")
    notJson.find [] "config.json" = .ok (.file notJsonText.toUTF8) ∧
      (outcomeOf (Settings.read "config.json") (fresh notJson [] "")).1 =
        .error (.json .malformed) ∧
      looking.2.files.file? ["config.json"] = some notJsonText.toUTF8 ∧
      Asks {} arguments "config.json" (.select (some "layout.json") { toggles := [1] } false) ∧
      saving.1 = .done ∧
      (outcomeOf (Settings.read "config.json") (fresh saving.2.files [] "")).1 =
        .ok { fullscreen := ⟨.selected, "1"⟩ } := by
  intro looking arguments saving
  have hread : CommandLine.read ["check", "-c", "config.json"] =
      .ok ⟨false, some "config.json", .check⟩ := rfl
  have hread' : CommandLine.read arguments = .ok ⟨false, some "config.json",
      .select (some "layout.json") { toggles := [1] } false⟩ := rfl
  have hrejected : (outcomeOf (Settings.read "config.json") (fresh notJson [] "")).1 =
      .error (.json .malformed) := rfl
  have hasks : Asks {} arguments "config.json"
      (.select (some "layout.json") { toggles := [1] } false) := ⟨_, hread', rfl, rfl⟩
  have hdone : saving.1 = .done := by decide +kernel
  have hsaving : runOn {} arguments (fresh notJson [] "") = saving := rfl
  clear_value saving
  refine ⟨rfl, hrejected, ?_, hasks, hdone, ?_⟩
  · refine (rejected_settings_kept_iff "" rfl hrejected fun invocation h => ?_).1.2 ?_
    · obtain rfl := Except.ok.inj (hread.symm.trans h)
      rfl
    · rintro ⟨-, file, edit, invocation, h, -, hcommand⟩
      obtain rfl := Except.ok.inj (hread.symm.trans h)
      cases hcommand
  · obtain ⟨layoutPath, text, layout, a, hfile, htext, hparse, hedit, hsaved⟩ :=
      (rejected_settings_kept_iff "" rfl hrejected fun invocation h => by
        obtain rfl := Except.ok.inj (hread'.symm.trans h)
        rfl).2 _ _ hasks (hsaving ▸ congrArg Outcome.code hdone)
    obtain rfl := Option.some.inj hfile
    have htext' : notJson.readText [] "layout.json" = .ok oneDisplay := rfl
    obtain rfl := Except.ok.inj (htext'.symm.trans htext)
    have hparse' : Json.parse Layout.reader oneDisplay = .ok ⟨[⟨⟨0, 0, 100, 100⟩, none⟩]⟩ := by
      decide +kernel
    obtain rfl := Except.ok.inj (hparse'.symm.trans hparse)
    have hsettings := congrArg (·.map (·.settings.value)) hedit
    have hselected : a.settings.value = ⟨.selected, "1"⟩ :=
      (Except.ok.inj hsettings).symm.trans (by decide +kernel)
    rw [hsaving, hselected] at hsaved
    exact hsaved

/-- To toggle a monitor replaces the file, although its content was rejected. -/
theorem rejected_settings_replaced :
    let arguments := ["-c", "config.json", "select", "layout.json", "-t", "1"]
    let run := runOn {} arguments (fresh notJson [] "")
    notJson.find [] "config.json" = .ok (.file notJsonText.toUTF8) ∧
      (outcomeOf (Settings.read "config.json") (fresh notJson [] "")).1 =
        .error (.json .malformed) ∧
      Asks {} arguments "config.json" (.select (some "layout.json") { toggles := [1] } false) ∧
      run.1 = .done ∧ run.2.files.file? ["config.json"] ≠ some notJsonText.toUTF8 := by
  intro arguments run
  have hread : CommandLine.read arguments = .ok ⟨false, some "config.json",
      .select (some "layout.json") { toggles := [1] } false⟩ := by rfl
  refine ⟨rfl, rfl, ⟨_, hread, rfl, rfl⟩, ?_⟩
  decide +kernel

end Multihead.Program
