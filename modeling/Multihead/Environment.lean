import Multihead.FilePath
import Multihead.Log.Filter

/-!
# The environment

The variables that the program looks at: where the settings are kept, and what is logged.
-/

namespace Multihead

/-- The values of the environment's variables, where they are set. -/
structure Environment where
  home : Option String := none
  /-- The directory for the settings of all programs. -/
  configHome : Option String := none
  /-- The filter for log records. -/
  logFilter : Option String := none
deriving DecidableEq, Repr, Inhabited

namespace Environment

/-- The file that holds the settings unless another one is named. -/
def settingsPath (env : Environment) : FilePath :=
  let base := env.configHome.getD (FilePath.join (env.home.getD "/tmp") ".config")
  (FilePath.join base "monspan").join "config.json"

/-- The filter for log records: the environment's own if it has one in which everything is right,
else the one given by a level of the settings. -/
def filter (env : Environment) (level : String) : Log.Filter :=
  (env.logFilter.bind Log.Filter.parse?).getD (.parseLossy level)

end Environment

end Multihead
