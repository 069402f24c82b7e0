import Multihead.FilePath

/-!
# A file system

A file system is a tree of directories and files below a root. A path is walked name by name, from
the root or from a working directory: a dot stays, two dots go outwards, and every name before the
last one has to name a directory. Reading, writing and making directories fail with the fault that
is met first on the way.

There are directories and ordinary files and nothing else: no devices, no links and no permissions.
A file that is found can be read and written, and there always is room for what is written to it.
-/

namespace Multihead

/-- Why the file system refuses a request. -/
inductive FileError
  | notFound
  | alreadyExists
  | notADirectory
  | isADirectory
  | nameTooLong
  /-- The content is not text in UTF-8. -/
  | notText
  /-- Any other fault, with its own words. -/
  | other (message : String)
deriving DecidableEq, Repr

def FileError.message : FileError → String
  | .notFound => "No such file or directory (os error 2)"
  | .alreadyExists => "File exists (os error 17)"
  | .notADirectory => "Not a directory (os error 20)"
  | .isADirectory => "Is a directory (os error 21)"
  | .nameTooLong => "File name too long (os error 36)"
  | .notText => "stream did not contain valid UTF-8"
  | .other message => message

/-- A place in the tree: the names that lead to it, the innermost one first. The root has none. -/
abbrev Location := List String

inductive FileNode
  | directory
  | file (content : ByteArray)

instance : DecidableEq FileNode
  | .directory, .directory => .isTrue rfl
  | .file content, .file content' =>
    decidable_of_iff (content.data = content'.data) (by simp [ByteArray.ext_iff])
  | .directory, .file _ => .isFalse nofun
  | .file _, .directory => .isFalse nofun

/-- The files and directories below the root, with the latest at the front. -/
structure FileSystem where
  entries : List (Location × FileNode)
deriving DecidableEq

namespace FileSystem

/-- The file system that has nothing but its root. -/
def empty : FileSystem := ⟨[]⟩

def node? (fs : FileSystem) : Location → Option FileNode
  | [] => some .directory
  | location => fs.entries.lookup location

/-- Put a node at a place, instead of what is there. -/
def put (fs : FileSystem) (location : Location) (node : FileNode) : FileSystem :=
  ⟨(location, node) :: fs.entries.filter (·.1 ≠ location)⟩

theorem lookup_filter_of_ne {entries : List (Location × FileNode)} {location other : Location}
    (h : other ≠ location) :
    (entries.filter (·.1 ≠ location)).lookup other = entries.lookup other := by
  induction entries with
  | nil => rfl
  | cons entry rest ih =>
    obtain ⟨place, node⟩ := entry
    by_cases hp : place = location
    · subst hp
      have ho : (other == place) = false := by simpa using h
      simpa [List.lookup_cons, ho] using ih
    · rw [List.filter_cons_of_pos (by simpa using hp), List.lookup_cons, List.lookup_cons, ih]

/-- What was put at a place stands there. -/
theorem node?_put_self (fs : FileSystem) {location : Location} (h : location ≠ [])
    (node : FileNode) : (fs.put location node).node? location = some node := by
  cases location with
  | nil => exact absurd rfl h
  | cons name outer => simp [node?, put]

/-- Nothing changes at other places. -/
theorem node?_put_of_ne (fs : FileSystem) {location other : Location} (h : other ≠ location)
    (node : FileNode) : (fs.put location node).node? other = fs.node? other := by
  cases other with
  | nil => rfl
  | cons name outer =>
    have : (name :: outer == location) = false := by simpa using h
    simp only [node?, put, List.lookup_cons, this]
    exact lookup_filter_of_ne h

def maxNameBytes : Nat := 255

/-- Enter the directory `name` of the directory at `location`. -/
def enter (fs : FileSystem) (location : Location) (name : String) : Except FileError Location :=
  if name = "." then .ok location
  else if name = ".." then .ok location.tail
  else if maxNameBytes < name.utf8ByteSize then .error .nameTooLong
  else match fs.node? (name :: location) with
    | some .directory => .ok (name :: location)
    | some (.file _) => .error .notADirectory
    | none => .error .notFound

/-- Where a path leads. -/
inductive Destination
  /-- To the directory at a location, which the last name does not name itself. -/
  | directory (location : Location)
  /-- To a name in the directory at a location, which need not exist. -/
  | entry (location : Location) (name : String)
deriving DecidableEq, Repr

/-- Walk names from the directory at a location. -/
def walk (fs : FileSystem) : Location → List String → Except FileError Destination
  | location, [] => .ok (.directory location)
  | location, [name] =>
    if name = "." then .ok (.directory location)
    else if name = ".." then .ok (.directory location.tail)
    else if maxNameBytes < name.utf8ByteSize then .error .nameTooLong
    else .ok (.entry location name)
  | location, name :: next :: names => do
    fs.walk (← fs.enter location name) (next :: names)

/-- Where a path leads from a working directory. A path without any character leads nowhere. -/
def destination (fs : FileSystem) (working : Location) (path : FilePath) :
    Except FileError Destination :=
  if path = "" || '\x00' ∈ path.toList then .error .notFound
  else fs.walk (if path.isAbsolute then [] else working) path.names

/-- What stands at the end of a path. -/
def find (fs : FileSystem) (working : Location) (path : FilePath) : Except FileError FileNode := do
  match ← fs.destination working path with
  | .directory _ => return .directory
  | .entry location name =>
    match fs.node? (name :: location) with
    | some .directory => return .directory
    | some (.file content) =>
      if path.endsInSlash then .error .notADirectory else .ok (.file content)
    | none => .error .notFound

/-- Whether there is something at the end of a path. -/
def exists? (fs : FileSystem) (working : Location) (path : FilePath) : Bool :=
  (fs.find working path).isOk

def readText (fs : FileSystem) (working : Location) (path : FilePath) :
    Except FileError String := do
  match ← fs.find working path with
  | .directory => .error .isADirectory
  | .file content =>
    match String.fromUTF8? content with
    | some text => .ok text
    | none => .error .notText

/-- The place of the file that a path leads to. Unless there is one, it can be made there. -/
def fileLocation (fs : FileSystem) (working : Location) (path : FilePath) :
    Except FileError Location := do
  match ← fs.destination working path with
  | .directory _ => .error .isADirectory
  | .entry location name =>
    if path.endsInSlash || fs.node? (name :: location) = some .directory then .error .isADirectory
    else .ok (name :: location)

/-- The content of the file at a place, empty if there is none. -/
def content (fs : FileSystem) (location : Location) : ByteArray :=
  match fs.node? location with
  | some (.file content) => content
  | _ => .empty

/-- Write a file, instead of what it held. This fails only where there can be no such file, before
anything is written: it never ends with the file emptied and the text not, or not all, in it. -/
def writeText (fs : FileSystem) (working : Location) (path : FilePath) (text : String) :
    Except FileError FileSystem := do
  let location ← fs.fileLocation working path
  return fs.put location (.file text.toUTF8)

/-- Open a file to append to it: where it is, and the file system in which it exists. -/
def openAppend (fs : FileSystem) (working : Location) (path : FilePath) :
    Except FileError (Location × FileSystem) := do
  let location ← fs.fileLocation working path
  return (location, fs.put location (.file (fs.content location)))

def appendText (fs : FileSystem) (location : Location) (text : String) : FileSystem :=
  fs.put location (.file (fs.content location ++ text.toUTF8))

/-- Make a directory within an existing one. -/
def makeDirectory (fs : FileSystem) (start : Location) (names : List String) :
    Except FileError FileSystem := do
  match ← fs.walk start names with
  | .directory _ => .error .alreadyExists
  | .entry location name =>
    if (fs.node? (name :: location)).isSome then .error .alreadyExists
    else return fs.put (name :: location) .directory

def isDirectory (fs : FileSystem) (start : Location) (names : List String) : Bool :=
  match fs.walk start names with
  | .ok (.directory _) => true
  | .ok (.entry location name) => fs.node? (name :: location) = some .directory
  | .error _ => false

/-- Make a directory, which may be there already. -/
def ensureDirectory (fs : FileSystem) (start : Location) (names : List String) :
    Except FileError FileSystem :=
  match fs.makeDirectory start names with
  | .ok made => .ok made
  | .error e => if fs.isDirectory start names then .ok fs else .error e

/-- Go on with a changed file system, or with this one if it could not be changed. -/
def settle (fs : FileSystem) : Except FileError FileSystem → Except FileError Unit × FileSystem
  | .ok changed => (.ok (), changed)
  | .error e => (.error e, fs)

/-- Make a directory and those around it, given its names from the innermost one outwards. What was
made stays, even if the rest cannot be made. -/
def makeDirectories (fs : FileSystem) (start : Location) :
    List String → Except FileError Unit × FileSystem
  | [] => (.ok (), fs)
  | name :: outer =>
    match fs.ensureDirectory start (name :: outer).reverse with
    | .error .notFound =>
      match fs.makeDirectories start outer with
      | (.ok (), made) => made.settle (made.ensureDirectory start (name :: outer).reverse)
      | failed => failed
    | other => fs.settle other

/-- Make the directory that a path is in, and those around it. -/
def makeParent (fs : FileSystem) (working : Location) (path : FilePath) :
    Except FileError Unit × FileSystem :=
  fs.makeDirectories (if path.isAbsolute then [] else working) path.parentNames.reverse

/-- The file system in which a path has its directory, unless that cannot be made. -/
def ensureParent (fs : FileSystem) (working : Location) (path : FilePath) :
    Except FileError FileSystem :=
  let (result, made) := fs.makeParent working path
  result.map fun () => made

end FileSystem

end Multihead
