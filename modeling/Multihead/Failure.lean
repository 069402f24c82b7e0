import Multihead.ArrangementError
import Multihead.FileSystem
import Multihead.FullscreenMode
import Multihead.Json.Reader
import Multihead.SelectionText

/-!
# Failures of a command

Why a command fails, and what the user is told. The words for a fault in a JSON text are a parameter
of the message.
-/

namespace Multihead

inductive Failure
  | arrangement (error : ArrangementError)
  | selectionText (error : SelectionText.Error)
  /-- A position that is counted from one was given as zero. -/
  | positionZero
  | unknownMode (name : String)
  | noLayout
  | layoutUnreadable (path : FilePath) (error : FileError)
  | layoutMalformed (path : FilePath) (fault : Json.Fault)
  | fileNotFound (path : FilePath)
  | file (error : FileError)
  | json (fault : Json.Fault)
deriving DecidableEq, Repr

/-- What part of a request a failure is about. -/
inductive Failure.Subject
  | topology
  | selection
  | configuration
  | layout
  | missingFile
  | file
  | json
deriving DecidableEq, Repr

namespace Failure

def subject : Failure → Subject
  | .arrangement .emptyTopology => .topology
  | .arrangement (.outOfRange _ _) => .selection
  | .selectionText _ => .configuration
  | .positionZero => .selection
  | .unknownMode _ => .configuration
  | .noLayout => .configuration
  | .layoutUnreadable _ _ => .layout
  | .layoutMalformed _ _ => .layout
  | .fileNotFound _ => .missingFile
  | .file _ => .file
  | .json _ => .json

/-- The words that say what the failure is about, before the words that say what is wrong. -/
def Subject.heading : Subject → String
  | .topology => "Topology error: "
  | .selection => "Selection error: "
  | .configuration => "Configuration error: "
  | .layout => "Layout error: "
  | .missingFile => "File not found: "
  | .file => ""
  | .json => ""

def detail (describe : Json.Fault → String) : Failure → String
  | .arrangement e => e.message
  | .selectionText e => "invalid monitor selection: " ++ e.message
  | .positionZero => "Monitor positions start at 1"
  | .unknownMode name =>
    "unknown fullscreen mode " ++ Text.quote name ++ " (expected current, selected or all)"
  | .noLayout => "No layout file given and none configured"
  | .layoutUnreadable path e =>
    "Failed to load layout: I/O error at " ++ path ++ ": " ++ e.message
  | .layoutMalformed path fault =>
    "Failed to load layout: Parse error in " ++ path ++ ": " ++ describe fault
  | .fileNotFound path => path
  | .file e => e.message
  | .json fault => describe fault

def message (describe : Json.Fault → String) (failure : Failure) : String :=
  failure.subject.heading ++ failure.detail describe

end Failure

/-- The mode that a user named, or the failure to know it. -/
def FullscreenMode.named (text : String) : Except Failure FullscreenMode :=
  (FullscreenMode.parse text).mapError .unknownMode

end Multihead
