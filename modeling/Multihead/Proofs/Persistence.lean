import Multihead.Proofs.Layout.Json
import Multihead.Proofs.Settings.File

/-!
# What is persisted is read back

Settings, layouts, displays and rectangles are written in two layouts, and their readers read both
of them as the value that was written. Main statement: that holds for every value, and so a settings
file that was saved holds the settings that were saved (`persisted_read_back`).
-/

namespace Multihead

open Json Machine FileSystem

/-- What is written of a value is read as that value, in compact and in indented form. -/
def ReadBack {α : Type} (reader : Reader α) (toJson : α → Value) : Prop :=
  ∀ a, parse reader (toJson a).compactText = .ok a ∧ parse reader (toJson a).indentedText = .ok a

theorem readBack_of_reads {α : Type} {reader : Reader α} {toJson : α → Value}
    (h : ∀ a, Reads reader (toJson a) a) : ReadBack reader toJson := by
  intro a
  have hcompact := isForm_compact (toJson a)
  have hindented := isForm_indented 0 (toJson a)
  exact ⟨(h a).parse_form hcompact, (h a).parse_form hindented⟩

/-- A settings file that was saved holds the indented form of the settings. -/
theorem Settings.readText_of_save {settings : Settings} {path : FilePath} {s s' : Machine}
    (h : outcomeOf (save settings path) s = (.ok (), s')) :
    s'.files.readText s'.working path = .ok settings.toJson.indentedText := by
  obtain ⟨_, made, -, h⟩ := outcomeOf_bind_eq_ok h
  obtain ⟨_, made, -, h⟩ := outcomeOf_bind_eq_ok h
  obtain ⟨result, written, hwrite, hsettle⟩ := outcomeOf_bind_eq_ok h
  rw [outcomeOf_settle, Prod.mk.injEq, mapError_eq_ok_iff] at hsettle
  obtain ⟨rfl, rfl⟩ := hsettle
  rw [outcomeOf_writeText, Prod.mk.injEq, Except.ok.injEq] at hwrite
  obtain ⟨hok, rfl⟩ := hwrite
  cases hresult : made.files.writeText made.working path settings.toJson.indentedText with
  | error e =>
    rw [hresult] at hok
    cases hok
  | ok files => exact readText_writeText hresult

/-- Whatever is persisted is read back as it was, from either layout. In particular, to read a
settings file right after it was saved gives the settings that were saved. -/
theorem persisted_read_back :
    ReadBack Settings.reader Settings.toJson ∧
    ReadBack FullscreenSettings.reader FullscreenSettings.toJson ∧
    ReadBack FullscreenMode.reader FullscreenMode.toJson ∧
    ReadBack LoggingSettings.reader LoggingSettings.toJson ∧
    ReadBack Layout.reader Layout.toJson ∧ ReadBack Layout.Entry.reader Layout.Entry.toJson ∧
    ReadBack Display.reader Display.toJson ∧ ReadBack Rect.reader Rect.toJson ∧
    ∀ (settings : Settings) (path : FilePath) (s s' : Machine),
      outcomeOf (settings.save path) s = (.ok (), s') →
        s'.files.readText s'.working path = .ok settings.toJson.indentedText ∧
          outcomeOf (Settings.read path) s' = (.ok settings, s') := by
  have hsettings := readBack_of_reads reads_settings
  refine ⟨hsettings, readBack_of_reads reads_fullscreenSettings, readBack_of_reads reads_mode,
    readBack_of_reads reads_loggingSettings, readBack_of_reads Layout.reads_layout,
    readBack_of_reads Layout.reads_entry, readBack_of_reads reads_display,
    readBack_of_reads reads_rect, ?_⟩
  intro settings path s s' hsave
  have htext := Settings.readText_of_save hsave
  have hread : Settings.readFrom s'.files s'.working path = .ok settings :=
    Settings.readFrom_eq_ok_iff.2 ⟨_, htext, (hsettings settings).2⟩
  refine ⟨htext, ?_⟩
  rw [Settings.outcomeOf_read, hread]

/-- Settings that have to be escaped, saved to a directory that is not there yet. -/
def quotedSettings : Settings where
  fullscreen := { mode := .selected, selection := "\t0, 2" }
  logging := { level := "\"d\\ébug\"", file := some "\x01😀.log" }

def savedQuoted : Except Failure Unit × Machine :=
  outcomeOf (quotedSettings.save "a/c") (fresh .empty [] "")

theorem persisted_read_back_quoted :
    savedQuoted.1 = .ok () ∧
      outcomeOf (Settings.read "a/c") savedQuoted.2 = (.ok quotedSettings, savedQuoted.2) := by
  have hsaved : savedQuoted.1 = .ok () := by decide +kernel
  have hread := persisted_read_back.2.2.2.2.2.2.2.2 quotedSettings "a/c" _ _ (Prod.ext hsaved rfl)
  exact ⟨hsaved, hread.2⟩

end Multihead
