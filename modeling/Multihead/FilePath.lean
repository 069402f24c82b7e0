/-!
# Paths

A path is a text in which slashes separate names. It is kept as it was written, since it is shown to
the user; only what it leads to depends on its names.
-/

namespace Multihead

/-- A path as it was written. -/
abbrev FilePath := String

namespace FilePath

def isAbsolute (path : FilePath) : Bool := path.toList.head? = some '/'

/-- Whether the path ends in a slash, and so can only lead to a directory. -/
def endsInSlash (path : FilePath) : Bool := path.toList.getLast? = some '/'

def names (path : FilePath) : List String :=
  ((path.toList.splitOn '/').filter (!·.isEmpty)).map String.ofList

/-- The path of `name` within the directory `base`. -/
def join (base : FilePath) (name : String) : FilePath :=
  if base = "" || base.endsInSlash then base ++ name else base ++ "/" ++ name

/-- The names of the directory that the path is in. A dot stands for no directory of its own. -/
def parentNames (path : FilePath) : List String := (path.names.filter (· ≠ ".")).dropLast

end FilePath

end Multihead
