import Multihead.Host
import Multihead.Settings.Json

/-!
# The settings file

The settings are read from one file and written to it. A file that is missing stands for the
defaults; so does one that cannot be read, with a warning.
-/

namespace Multihead.Settings

variable {m : Type → Type} [Monad m] [Host m]

def read (path : FilePath) : ExceptT Failure m Settings := do
  if ← Host.fileExists path then
    let text ← Host.settle .file (← Host.readText path)
    Host.settle .json (Json.parse reader text)
  else throw (.fileNotFound path)

/-- The warning that a settings file was not read. -/
def unread (path : FilePath) (failure : Failure) : Log.Record :=
  ⟨.warn, .settings, "Failed to load config at " ++ Text.quote path ++ ": " ++
    failure.message Json.Fault.message, []⟩

/-- The settings of a file, or the defaults if it does not give any. -/
def load (path : FilePath) : m Settings := do
  match ← (read path).run with
  | .ok settings => return settings
  | .error (.fileNotFound _) => return {}
  | .error failure =>
    Host.log (unread path failure)
    return {}

/-- Write the settings to a file, and make the directory for it. -/
def save (settings : Settings) (path : FilePath) : ExceptT Failure m Unit := do
  Host.settle .file (← Host.ensureParent path)
  Host.settle .file (← Host.writeText path settings.toJson.indentedText)

end Multihead.Settings
