import Multihead.Proofs.Json.Reading
import Multihead.Settings.Json

/-!
# Reading settings that were written

The settings are written with all their members, in the order of their fields, so each section and
the whole are read back as they were (`reads_settings`), from the indented form in particular
(`parse_indentedText`).
-/

namespace Multihead

open Json

theorem reads_mode (mode : FullscreenMode) : Reads FullscreenMode.reader mode.toJson mode :=
  reads_name (FullscreenMode.ofName?_name mode)

theorem reads_fullscreenSettings (s : FullscreenSettings) :
    Reads FullscreenSettings.reader s.toJson s := by
  have haccepts : Accepts FullscreenSettings.fields [] {}
      [("mode", s.mode.toJson), ("selected_monitors", .text s.selection)]
      ["selected_monitors", "mode"] s := by
    refine .cons rfl (by decide) (Field.reads_of (reads_mode s.mode) _) ?_
    exact .cons rfl (by decide) (Field.reads_of (reads_text s.selection) _) .nil
  exact reads_record haccepts rfl

theorem reads_loggingSettings (s : LoggingSettings) : Reads LoggingSettings.reader s.toJson s := by
  have haccepts : Accepts LoggingSettings.fields [] {}
      [("level", .text s.level), ("json", .bool s.json), ("file", .ofText? s.file)]
      ["file", "json", "level"] s := by
    refine .cons rfl (by decide) (Field.reads_of (reads_text s.level) _) ?_
    refine .cons rfl (by decide) (Field.reads_of (reads_bool s.json) _) ?_
    exact .cons rfl (by decide) (Field.reads_of (reads_ofText? s.file) _) .nil
  exact reads_record haccepts rfl

theorem reads_settings (s : Settings) : Reads Settings.reader s.toJson s := by
  have haccepts : Accepts Settings.fields [] {}
      [("fullscreen", s.fullscreen.toJson), ("logging", s.logging.toJson),
        ("layout_file", .ofText? s.layoutFile)] ["layout_file", "logging", "fullscreen"] s := by
    refine .cons rfl (by decide) (Field.reads_of (reads_fullscreenSettings s.fullscreen) _) ?_
    refine .cons rfl (by decide) (Field.reads_of (reads_loggingSettings s.logging) _) ?_
    exact .cons rfl (by decide) (Field.reads_of (reads_ofText? s.layoutFile) _) .nil
  exact reads_record haccepts rfl

/-- The settings are read back from what is written to their file. -/
theorem Settings.parse_indentedText (s : Settings) :
    Json.parse Settings.reader s.toJson.indentedText = .ok s :=
  (reads_settings s).parse_form (isForm_indented 0 s.toJson)

end Multihead
