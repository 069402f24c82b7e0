import Multihead.Host
import Multihead.Log.Line

/-!
# A machine as a value

The machine that a command runs on, as far as a run can be told from it: its files, what was
printed, and where log records go. Records that go to no file leave no trace. Nothing fails but to
find a file or to make a directory: a write that has begun ends well (`FileSystem.writeText`), every
record reaches its file, and every text is printed.
-/

namespace Multihead

structure LogSink where
  filter : Log.Filter
  json : Bool
  location : Location
deriving DecidableEq, Repr

structure Machine where
  files : FileSystem
  working : Location
  /-- The time at which every record is made. -/
  timestamp : String
  printed : String := ""
  sink : Option LogSink := none

namespace Machine

/-- Do something to the files and go on with what it makes of them. -/
def change (action : FileSystem → Location → Except FileError Unit × FileSystem) :
    StateM Machine (Except FileError Unit) :=
  fun s =>
    let (result, files) := action s.files s.working
    (result, { s with files })

def logged (s : Machine) (record : Log.Record) : Machine :=
  match s.sink with
  | some sink =>
    if sink.filter.admits record then
      { s with files := s.files.appendText sink.location (record.line sink.json s.timestamp) }
    else s
  | none => s

instance : Host (StateM Machine) where
  fileExists path := do return (← get).files.exists? (← get).working path
  readText path := do return (← get).files.readText (← get).working path
  ensureParent path := change fun files working => files.makeParent working path
  writeText path text := change fun files working =>
    files.settle (files.writeText working path text)
  startLog filter json path := modify fun s =>
    match path.map (s.files.openAppend s.working) with
    | some (.ok (location, files)) => { s with files, sink := some ⟨filter, json, location⟩ }
    | _ => s
  log record := modify (·.logged record)
  print text := modify fun s => { s with printed := s.printed ++ text }

end Machine

end Multihead
