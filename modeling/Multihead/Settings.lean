import Multihead.FullscreenMode

/-!
# Settings

The settings of a user: which monitors a fullscreen session covers, what is logged and where, and
the layout file to use when none is named.
-/

namespace Multihead

structure FullscreenSettings where
  mode : FullscreenMode := .current
  /-- The written form of a selection. It is not checked before it is used. -/
  selection : String := ""
deriving DecidableEq, Repr, Inhabited

structure LoggingSettings where
  level : String := "info"
  /-- Whether records are written as JSON objects. -/
  json : Bool := false
  /-- The file that records are appended to. -/
  file : Option String := none
deriving DecidableEq, Repr, Inhabited

structure Settings where
  fullscreen : FullscreenSettings := {}
  logging : LoggingSettings := {}
  layoutFile : Option String := none
deriving DecidableEq, Repr, Inhabited

end Multihead
