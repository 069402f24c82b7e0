import Multihead.Proofs.Json.Rearranged
import Multihead.Proofs.Settings.File

/-!
# Settings that are not written as they are saved

A settings file may leave out what has its default, give its members in any order and hold members
that are unknown, in the whole and in both sections, and the same settings are read from it (`form`).
It may not give a member twice, and a logging section may not leave out its level or whether it logs
JSON (`spoiled`). Then the defaults are used instead (`Settings.load_rearranged`).
-/

namespace Multihead

open Json

/-! ## The fullscreen section -/

namespace FullscreenSettings

variable (s : FullscreenSettings)

def memberForms : List (String × Form) :=
  [("mode", .text s.mode.name), ("selected_monitors", .text s.selection)]

/-- The member of the name has its default. -/
def MayLack (name : String) : Prop :=
  name = "mode" ∧ s.mode = .current ∨ name = "selected_monitors" ∧ s.selection = ""

/-- The section with its members in any order, any of those left out that have their defaults, and
any values under other names. -/
def form : Form := .object (Rearranges s.memberForms s.MayLack)

/-- A section in which a member is given twice. -/
def spoiled : Form :=
  .object (Spoiled ["mode", "selected_monitors"] []
    (fun m => ∃ s : FullscreenSettings, m ∈ s.memberForms) fun _ => False)

/-- What was read of the section when the members with the given names were. -/
def soFar (given : List String) : FullscreenSettings where
  mode := if "mode" ∈ given then s.mode else .current
  selection := if "selected_monitors" ∈ given then s.selection else ""

variable {m : String × Form}

theorem exists_puts (h : m ∈ s.memberForms) :
    ∃ put, Puts fields m put ∧ ∀ given, put (s.soFar given) = s.soFar (m.1 :: given) := by
  simp only [memberForms, List.mem_cons, List.not_mem_nil, or_false] at h
  rcases h with rfl | rfl
  · refine ⟨_, .of rfl (gives_name (FullscreenMode.ofName?_name s.mode)), fun given => ?_⟩
    simp [soFar]
  · refine ⟨_, .of rfl (gives_text s.selection), fun given => ?_⟩
    simp [soFar]

theorem gives_form : Gives reader s.form (.ok s) := by
  refine Rearranges.gives_record rfl (fun _ => s.exists_puts) fun given hgiven => ⟨rfl, ?_⟩
  have hmode (hnew : "mode" ∉ given) : s.mode = .current := by
    simpa [MayLack] using hgiven "mode" (by simp [memberForms]) hnew
  have hselection (hnew : "selected_monitors" ∉ given) : s.selection = "" := by
    simpa [MayLack] using hgiven "selected_monitors" (by simp [memberForms]) hnew
  obtain ⟨mode, selection⟩ := s
  simp only [soFar, mk.injEq, ite_eq_left_iff]
  exact ⟨fun hnew => (hmode hnew).symm, fun hnew => (hselection hnew).symm⟩

theorem gives_spoiled : Gives reader spoiled (.error .mismatched) := by
  refine Spoiled.gives_record ?_ nofun nofun
  exact fun _ ⟨s, hm⟩ => (s.exists_puts hm).imp fun _ => And.left

theorem form_includes_written : s.form.Includes (.written s.toJson) := by
  refine Form.object_includes_written (Rearranges.refl (by simp [memberForms]))
    (.cons ⟨rfl, ?_⟩ (.cons ⟨rfl, ?_⟩ .nil))
  · exact fun _ _ => begins_text
  · exact fun _ _ => begins_text

end FullscreenSettings

/-! ## The logging section -/

namespace LoggingSettings

variable (s : LoggingSettings)

def memberForms : List (String × Form) :=
  [("level", .text s.level), ("json", .bool s.json), ("file", .ofText? s.file)]

/-- The member of the name has its default, and it is not one that every section has to give. -/
def MayLack (name : String) : Prop := name = "file" ∧ s.file = none

/-- The section with its members in any order, the file left out if there is none, and any values
under other names. -/
def form : Form := .object (Rearranges s.memberForms s.MayLack)

/-- A section in which a member is given twice, or the level is not given, or whether it logs JSON
is not. -/
def spoiled : Form :=
  .object (Spoiled ["level", "json", "file"] ["level", "json"]
    (fun m => ∃ s : LoggingSettings, m ∈ s.memberForms) fun _ => False)

/-- What was read of the section when the members with the given names were. -/
def soFar (given : List String) : LoggingSettings where
  level := if "level" ∈ given then s.level else "info"
  json := if "json" ∈ given then s.json else false
  file := if "file" ∈ given then s.file else none

variable {m : String × Form}

theorem exists_puts (h : m ∈ s.memberForms) :
    ∃ put, Puts fields m put ∧ ∀ given, put (s.soFar given) = s.soFar (m.1 :: given) := by
  simp only [memberForms, List.mem_cons, List.not_mem_nil, or_false] at h
  rcases h with rfl | rfl | rfl
  · refine ⟨_, .of rfl (gives_text s.level), fun given => ?_⟩
    simp [soFar]
  · refine ⟨_, .of rfl (gives_bool s.json), fun given => ?_⟩
    simp [soFar]
  · refine ⟨_, .of rfl (gives_ofText? s.file), fun given => ?_⟩
    simp [soFar]

theorem gives_form : Gives reader s.form (.ok s) := by
  refine Rearranges.gives_record rfl (fun _ => s.exists_puts) fun given hgiven => ?_
  have hlevel : "level" ∈ given := by
    simpa [MayLack] using hgiven "level" (by simp [memberForms])
  have hjson : "json" ∈ given := by
    simpa [MayLack] using hgiven "json" (by simp [memberForms])
  have hfile (hnew : "file" ∉ given) : s.file = none := by
    simpa [MayLack] using hgiven "file" (by simp [memberForms]) hnew
  refine ⟨by simp [complete, fields, Field.of, hlevel, hjson], ?_⟩
  obtain ⟨level, json, file⟩ := s
  simp only [soFar, mk.injEq, ite_eq_left_iff]
  exact ⟨absurd hlevel, absurd hjson, fun hnew => (hfile hnew).symm⟩

theorem gives_spoiled : Gives reader spoiled (.error .mismatched) := by
  refine Spoiled.gives_record ?_ ?_ nofun
  · exact fun _ ⟨s, hm⟩ => (s.exists_puts hm).imp fun _ => And.left
  · simp [fields, Field.of]

theorem form_includes_written : s.form.Includes (.written s.toJson) := by
  refine Form.object_includes_written (Rearranges.refl (by simp [memberForms]))
    (.cons ⟨rfl, ?_⟩ (.cons ⟨rfl, ?_⟩ (.cons ⟨rfl, ?_⟩ .nil)))
  · exact fun _ _ => begins_text
  · exact fun _ _ => begins_bool
  · exact fun _ _ => begins_ofText?

end LoggingSettings

/-! ## The whole -/

namespace Settings

open Machine

variable (s : Settings)

def memberForms : List (String × Form) :=
  [("fullscreen", s.fullscreen.form), ("logging", s.logging.form),
    ("layout_file", .ofText? s.layoutFile)]

/-- The member of the name has its default. -/
def MayLack (name : String) : Prop :=
  name = "fullscreen" ∧ s.fullscreen = {} ∨ name = "logging" ∧ s.logging = {} ∨
    name = "layout_file" ∧ s.layoutFile = none

/-- The settings with their members in any order, any of those left out that have their defaults,
and any values under other names. So are the sections. -/
def form : Form := .object (Rearranges s.memberForms s.MayLack)

/-- Settings in which a member is given twice, or a section is spoiled. -/
def spoiled : Form :=
  .object (Spoiled ["fullscreen", "logging", "layout_file"] []
    (fun m => ∃ s : Settings, m ∈ s.memberForms) fun m =>
      m = ("fullscreen", FullscreenSettings.spoiled) ∨ m = ("logging", LoggingSettings.spoiled))

/-- What was read of the settings when the members with the given names were. -/
def soFar (given : List String) : Settings where
  fullscreen := if "fullscreen" ∈ given then s.fullscreen else {}
  logging := if "logging" ∈ given then s.logging else {}
  layoutFile := if "layout_file" ∈ given then s.layoutFile else none

variable {m : String × Form}

theorem exists_puts (h : m ∈ s.memberForms) :
    ∃ put, Puts fields m put ∧ ∀ given, put (s.soFar given) = s.soFar (m.1 :: given) := by
  simp only [memberForms, List.mem_cons, List.not_mem_nil, or_false] at h
  rcases h with rfl | rfl | rfl
  · refine ⟨_, .of rfl s.fullscreen.gives_form, fun given => ?_⟩
    simp [soFar]
  · refine ⟨_, .of rfl s.logging.gives_form, fun given => ?_⟩
    simp [soFar]
  · refine ⟨_, .of rfl (gives_ofText? s.layoutFile), fun given => ?_⟩
    simp [soFar]

theorem gives_form : Gives reader s.form (.ok s) := by
  refine Rearranges.gives_record rfl (fun _ => s.exists_puts) fun given hgiven => ⟨rfl, ?_⟩
  have hfullscreen (hnew : "fullscreen" ∉ given) : s.fullscreen = {} := by
    simpa [MayLack] using hgiven "fullscreen" (by simp [memberForms]) hnew
  have hlogging (hnew : "logging" ∉ given) : s.logging = {} := by
    simpa [MayLack] using hgiven "logging" (by simp [memberForms]) hnew
  have hlayout (hnew : "layout_file" ∉ given) : s.layoutFile = none := by
    simpa [MayLack] using hgiven "layout_file" (by simp [memberForms]) hnew
  obtain ⟨fullscreen, logging, layoutFile⟩ := s
  simp only [soFar, mk.injEq, ite_eq_left_iff]
  exact ⟨fun hnew => (hfullscreen hnew).symm, fun hnew => (hlogging hnew).symm,
    fun hnew => (hlayout hnew).symm⟩

theorem gives_spoiled : Gives reader spoiled (.error .mismatched) := by
  refine Spoiled.gives_record ?_ nofun ?_
  · exact fun _ ⟨s, hm⟩ => (s.exists_puts hm).imp fun _ => And.left
  · rintro m (rfl | rfl)
    · exact .of rfl FullscreenSettings.gives_spoiled
    · exact .of rfl LoggingSettings.gives_spoiled

theorem form_includes_written : s.form.Includes (.written s.toJson) := by
  refine Form.object_includes_written (Rearranges.refl (by simp [memberForms]))
    (.cons ⟨rfl, ?_⟩ (.cons ⟨rfl, ?_⟩ (.cons ⟨rfl, ?_⟩ .nil)))
  · exact s.fullscreen.form_includes_written
  · exact s.logging.form_includes_written
  · exact fun _ _ => begins_ofText?

/-! ## The settings file -/

/-- Every text of the saved settings is of their form, and the settings are loaded from any file of
that form. A file that spoils the form is refused for its shape, and the defaults are loaded. -/
theorem load_rearranged :
    (∀ (s : Settings) (text rest : List Char), Written s.toJson text rest →
      s.form.Begins text rest) ∧
    (∀ (s : Settings) (text : String) (rest : List Char), s.form.Begins text.toList rest →
      skipSpace rest = [] → ∀ (machine : Machine) (path : FilePath),
        machine.files.readText machine.working path = .ok text →
          outcomeOf (read path) machine = (.ok s, machine) ∧
            (load path : StateM Machine Settings).run machine = (s, machine)) ∧
    ∀ (text : String) (rest : List Char), spoiled.Begins text.toList rest →
      ∀ (machine : Machine) (path : FilePath),
        machine.files.readText machine.working path = .ok text →
          outcomeOf (read path) machine = (.error (.json .mismatched), machine) ∧
            (load path : StateM Machine Settings).run machine =
              ({}, machine.logged (unread path (.json .mismatched))) := by
  refine ⟨fun s => s.form_includes_written, ?_, ?_⟩
  · intro s text rest hbegins hrest machine path htext
    have hread := readFrom_of_readText htext
    rw [s.gives_form.parse hbegins hrest] at hread
    rw [outcomeOf_read, run_load_eq, hread]
    exact ⟨rfl, rfl⟩
  · intro text rest hbegins machine path htext
    have hread := readFrom_of_readText htext
    rw [gives_spoiled.parse_error hbegins] at hread
    rw [outcomeOf_read, run_load_eq, hread]
    exact ⟨rfl, rfl⟩

/-- Logging is set between a foreign member and a fullscreen section without members. -/
def extendedText : String :=
  "\x7b\"own\":[],\"logging\":\x7b\"json\":true,\"level\":\"debug\"\x7d,\"fullscreen\":\x7b\x7d\x7d"

def extended : Settings where
  logging := { level := "debug", json := true }

theorem begins_extendedText : extended.form.Begins extendedText.toList [] := by
  have hown : Form.any.Includes (.written (.array [])) := by
    intro text rest hwritten
    cases hwritten with
    | array htoken helements =>
      obtain ⟨hclose⟩ := helements
      exact @WellFormed.brackets .array _ _ _ htoken (.none hclose)
  have hlogging : extended.logging.form.Includes
      (.written (.object [("json", .bool true), ("level", .text "debug")])) := by
    have hmembers : Rearranges extended.logging.memberForms extended.logging.MayLack
        [("json", .bool true), ("level", .text "debug")] := by
      refine ⟨?_, by decide, ?_⟩ <;>
        simp [LoggingSettings.memberForms, LoggingSettings.MayLack, extended]
    refine Form.object_includes_written hmembers (.cons ⟨rfl, ?_⟩ (.cons ⟨rfl, ?_⟩ .nil))
    · exact fun _ _ => begins_bool
    · exact fun _ _ => begins_text
  have hfullscreen : extended.fullscreen.form.Includes (.written (.object [])) := by
    have hmembers : Rearranges extended.fullscreen.memberForms extended.fullscreen.MayLack [] := by
      refine ⟨nofun, by decide, ?_⟩
      simp [FullscreenSettings.memberForms, FullscreenSettings.MayLack, extended]
    exact Form.object_includes_written hmembers .nil
  have hmembers : Rearranges extended.memberForms extended.MayLack [("own", .any),
      ("logging", extended.logging.form), ("fullscreen", extended.fullscreen.form)] := by
    refine ⟨?_, by decide, ?_⟩ <;> simp [memberForms, MayLack, extended]
  have htext : extendedText = Value.compactText (.object [("own", .array []),
      ("logging", .object [("json", .bool true), ("level", .text "debug")]),
      ("fullscreen", .object [])]) := by decide +kernel
  rw [htext]
  refine Form.object_includes_written hmembers ?_ _ _ (isForm_compact _).written
  exact .cons ⟨rfl, hown⟩ (.cons ⟨rfl, hlogging⟩ (.cons ⟨rfl, hfullscreen⟩ .nil))

/-- Logging is set without a level. -/
def levellessText : String := "\x7b\"logging\":\x7b\"json\":true\x7d\x7d"

theorem begins_levellessText : spoiled.Begins levellessText.toList [] := by
  have hlogging :
      LoggingSettings.spoiled.Includes (.written (.object [("json", .bool true)])) := by
    have hlevel : "level" ∉ [("json", Form.bool true)].map (·.1) := by decide
    refine Form.object_includes_written (.lacking ?_ (by decide) hlevel) (.cons ⟨rfl, ?_⟩ .nil)
    · rintro m hm
      obtain rfl := List.mem_singleton.1 hm
      exact .inl ⟨⟨"", true, none⟩, by simp [LoggingSettings.memberForms]⟩
    · exact fun _ _ => begins_bool
  have htext : levellessText =
      Value.compactText (.object [("logging", .object [("json", .bool true)])]) := by
    decide +kernel
  rw [htext]
  refine @Form.object_includes_written _ [("logging", LoggingSettings.spoiled)] _ ?_
    (.cons ⟨rfl, hlogging⟩ .nil) _ _ (isForm_compact _).written
  exact @Spoiled.refused _ _ _ _ [] [] _ nofun (.inr rfl)

/-- A machine with a file `c` of the text. -/
def holding (text : String) : Machine := fresh ⟨[(["c"], .file text.toUTF8)]⟩ [] ""

theorem load_rearranged_extended :
    (load "c" : StateM Machine Settings).run (holding extendedText) =
        (extended, holding extendedText) ∧
      outcomeOf (read "c") (holding levellessText) =
        (.error (.json .mismatched), holding levellessText) := by
  obtain ⟨-, hloads, hrefuses⟩ := load_rearranged
  constructor
  · exact (hloads extended _ _ begins_extendedText rfl _ "c" (by decide +kernel)).2
  · exact (hrefuses _ _ begins_levellessText _ "c" (by decide +kernel)).1

end Settings

end Multihead
