import Multihead.Proofs.Except
import Multihead.Proofs.Machine
import Multihead.Proofs.Settings.Json
import Multihead.Settings.File

/-!
# The settings file

What the settings file gives depends on its text alone (`readFrom_eq_ok_iff`), and to look for it
leaves a machine as it is. Saving ends in one of two ways (`save_cases`): the settings are read back
from the file, or the file is still not readable and only directories were made.
-/

namespace Multihead.Settings

open Machine FileSystem

variable {files files' : FileSystem} {working : Location} {path : FilePath} {settings : Settings}
  {s : Machine} {changed : Location → Prop}

/-! ## Reading -/

/-- What there is to read in a settings file. -/
def readFrom (files : FileSystem) (working : Location) (path : FilePath) :
    Except Failure Settings :=
  if files.exists? working path then do
    let text ← (files.readText working path).mapError .file
    (Json.parse reader text).mapError .json
  else .error (.fileNotFound path)

/-- The settings in use, which are the defaults if the file gives none. -/
def inUse (files : FileSystem) (working : Location) (path : FilePath) : Settings :=
  (readFrom files working path).toOption.getD {}

theorem outcomeOf_read (path : FilePath) (s : Machine) :
    outcomeOf (read path) s = (readFrom s.files s.working path, s) := by
  unfold read readFrom
  simp only [outcomeOf_bind, outcomeOf_fileExists]
  split
  · simp only [outcomeOf_bind, outcomeOf_readText, outcomeOf_settle]
    cases s.files.readText s.working path with
    | error e => rfl
    | ok text => rfl
  · rfl

/-- What a file gives is what its text gives. -/
theorem readFrom_of_readText {text : String} (h : files.readText working path = .ok text) :
    readFrom files working path = (Json.parse reader text).mapError .json := by
  rw [readFrom, if_pos (exists?_of_readText h), h]
  rfl

theorem readFrom_eq_ok_iff :
    readFrom files working path = .ok settings ↔
      ∃ text, files.readText working path = .ok text ∧ Json.parse reader text = .ok settings := by
  unfold readFrom
  split
  · simp only [bind_eq_ok_iff, mapError_eq_ok_iff]
  · next hexists =>
    exact iff_of_false nofun fun ⟨text, htext, _⟩ => hexists (exists?_of_readText htext)

/-- Settings that are missing are replaced by the defaults, and so are those that cannot be read,
with a warning. -/
theorem run_load_eq (path : FilePath) (s : Machine) :
    (load path : StateM Machine Settings).run s =
      match readFrom s.files s.working path with
      | .ok settings => (settings, s)
      | .error (.fileNotFound _) => ({}, s)
      | .error failure => ({}, s.logged (unread path failure)) := by
  have hread : (read path : ExceptT Failure (StateM Machine) Settings).run.run s =
      (readFrom s.files s.working path, s) := outcomeOf_read path s
  rw [load, StateT.run_bind, hread]
  cases readFrom s.files s.working path with
  | ok settings => rfl
  | error failure => cases failure <;> rfl

/-- To load the settings is to look at their file, unless a log is open. -/
theorem run_load (path : FilePath) (hsink : s.sink = none) :
    (load path : StateM Machine Settings).run s = (inUse s.files s.working path, s) := by
  have hlogged (record : Log.Record) : s.logged record = s := by rw [logged, hsink]
  rw [run_load_eq, inUse]
  cases readFrom s.files s.working path with
  | ok settings => rfl
  | error failure => cases failure <;> simp only [hlogged] <;> rfl

/-! ## Writing -/

theorem inUse_of_readFrom (h : readFrom files working path = .ok settings) :
    inUse files working path = settings := by
  rw [inUse, h]
  rfl

/-- What is in use depends on what can be read. -/
theorem inUse_congr
    (h : ∀ text, files'.readText working path = .ok text ↔ files.readText working path = .ok text) :
    inUse files' working path = inUse files working path := by
  have hread (settings : Settings) :
      readFrom files' working path = .ok settings ↔ readFrom files working path = .ok settings := by
    simp only [readFrom_eq_ok_iff, h]
  unfold inUse
  cases hfiles : readFrom files working path with
  | ok settings => rw [(hread settings).2 hfiles]
  | error failure =>
    cases hfiles' : readFrom files' working path with
    | ok settings =>
      rw [(hread settings).1 hfiles'] at hfiles
      cases hfiles
    | error failure' => rfl

/-- Where only other files change, the settings in use stay as they are. -/
theorem inUse_of_sameBut (h : SameBut changed files files')
    (hother : ∀ l, changed l → path.filePlace? working ≠ some l) :
    inUse files' working path = inUse files working path := by
  have hplace {fs : FileSystem} {text : String} (hread : fs.readText working path = .ok text) :
      ¬ changed (path.place working) :=
    fun hchanged => hother _ hchanged (filePlace?_of_readText hread)
  exact inUse_congr fun text =>
    ⟨fun hread => (h.readText_iff (hplace hread)).1 hread,
      fun hread => (h.readText_iff (hplace hread)).2 hread⟩

theorem readFrom_of_evolves (h : Evolves changed files files')
    (hplace : ¬ changed (path.place working)) (hread : readFrom files working path = .ok settings) :
    readFrom files' working path = .ok settings := by
  obtain ⟨text, htext, hparse⟩ := readFrom_eq_ok_iff.1 hread
  exact readFrom_eq_ok_iff.2 ⟨text, h.readText hplace htext, hparse⟩

/-- A settings file that is not readable after directories were made was not readable before. -/
theorem inUse_eq_of_evolves (h : Evolves (fun _ => False) files files')
    (hnone : ∀ text, files'.readText working path ≠ .ok text) :
    inUse files' working path = inUse files working path :=
  inUse_congr fun text =>
    ⟨fun htext => absurd htext (hnone text), fun htext => h.readText id htext⟩

/-- Either the settings are saved and read back, or nothing was written and the settings in use are
as they were. -/
theorem save_cases (settings : Settings) (path : FilePath) (s : Machine) :
    (∃ files, outcomeOf (save settings path) s = (.ok (), { s with files }) ∧
      Evolves (· = path.place s.working) s.files files ∧
        path.filePlace? s.working = some (path.place s.working) ∧
          readFrom files s.working path = .ok settings) ∨
    ∃ e files, outcomeOf (save settings path) s = (.error (.file e), { s with files }) ∧
      Evolves (fun _ => False) s.files files ∧
        inUse files s.working path = inUse s.files s.working path := by
  have hmade : Evolves (fun _ => False) s.files (s.files.makeParent s.working path).2 :=
    evolves_makeDirectories _ _ _
  simp only [save, outcomeOf_bind, outcomeOf_ensureParent, outcomeOf_settle, outcomeOf_writeText]
  rcases hparent : s.files.makeParent s.working path with ⟨e | _, made⟩
  · rw [hparent] at hmade
    refine .inr ⟨e, made, rfl, hmade, inUse_eq_of_evolves hmade fun text htext => ?_⟩
    -- Without its directory the path leads nowhere, so there were no settings to lose.
    obtain ⟨content, hfind, -⟩ := readText_eq_ok_iff.1 htext
    exact not_reaches_of_makeParent hparent (find_eq_file_iff.1 hfind).1
  · rw [hparent] at hmade
    cases hwrite : made.writeText s.working path settings.toJson.indentedText with
    | error e =>
      refine .inr ⟨e, made, ?_, hmade, inUse_eq_of_evolves hmade fun text htext => ?_⟩
      · simp [hwrite, FileSystem.settle]
      · obtain ⟨files, hwritten⟩ := exists_writeText_of_readText htext
        rw [hwrite] at hwritten
        cases hwritten
    | ok files =>
      refine .inl ⟨files, ?_, ?_, ?_, ?_⟩
      · simp [hwrite, FileSystem.settle]
      · exact (hmade.mono fun _ => False.elim).trans (sameBut_writeText hwrite).evolves
      · exact (writeText_eq_ok_iff.1 hwrite).1.filePlace?
      · exact readFrom_eq_ok_iff.2 ⟨_, readText_writeText hwrite, parse_indentedText settings⟩

end Multihead.Settings
