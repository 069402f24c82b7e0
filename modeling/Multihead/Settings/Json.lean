import Multihead.Json.Record
import Multihead.Json.Value
import Multihead.Settings

/-!
# Settings in JSON

The sections are members of an object and are written in full. When they are read, a section that
is missing has its default; so has a member of a section, but a logging section has to give its
level and whether it logs JSON.
-/

namespace Multihead

def FullscreenMode.toJson (mode : FullscreenMode) : Json.Value := .text mode.name

def FullscreenMode.reader : Json.Reader FullscreenMode := Json.name ofName?

def FullscreenSettings.toJson (s : FullscreenSettings) : Json.Value :=
  .object [("mode", s.mode.toJson), ("selected_monitors", .text s.selection)]

def FullscreenSettings.fields : List (Json.Field FullscreenSettings) :=
  [.of "mode" .optional FullscreenMode.reader fun s mode => { s with mode },
    .of "selected_monitors" .optional Json.text fun s selection => { s with selection }]

def FullscreenSettings.reader : Json.Reader FullscreenSettings := Json.record {} fields

def LoggingSettings.toJson (s : LoggingSettings) : Json.Value :=
  .object [("level", .text s.level), ("json", .bool s.json), ("file", .ofText? s.file)]

def LoggingSettings.fields : List (Json.Field LoggingSettings) :=
  [.of "level" .required Json.text fun s level => { s with level },
    .of "json" .required Json.bool fun s json => { s with json },
    .of "file" .optionalMember (Json.nullable Json.text) fun s file => { s with file }]

def LoggingSettings.reader : Json.Reader LoggingSettings := Json.record {} fields

def Settings.toJson (s : Settings) : Json.Value :=
  .object [("fullscreen", s.fullscreen.toJson), ("logging", s.logging.toJson),
    ("layout_file", .ofText? s.layoutFile)]

def Settings.fields : List (Json.Field Settings) :=
  [.of "fullscreen" .optional FullscreenSettings.reader fun s fullscreen => { s with fullscreen },
    .of "logging" .optional LoggingSettings.reader fun s logging => { s with logging },
    .of "layout_file" .optional (Json.nullable Json.text) fun s layoutFile =>
      { s with layoutFile }]

def Settings.reader : Json.Reader Settings := Json.record {} fields

end Multihead
