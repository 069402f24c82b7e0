import Multihead.Program
import Multihead.Log.Line
import Std.Time.DateTime

/-!
# The program on a real machine

The host that a run needs, on the files, the streams and the clock of the machine.
-/

namespace Multihead.Console

/-- Where log records go, and which of them. -/
structure OpenLog where
  filter : Log.Filter
  json : Bool
  stream : IO.FS.Stream

/-- A run on the machine: the log is open or not yet. -/
abbrev Run := StateT (Option OpenLog) IO

/-- The error that the machine reports. -/
def fileError : IO.Error → FileError
  | .noFileOrDirectory _ _ _ => .notFound
  | .alreadyExists _ _ _ => .alreadyExists
  | .inappropriateType _ code _ => if code = 20 then .notADirectory else .isADirectory
  | .invalidArgument _ 36 _ => .nameTooLong
  | e => .other (toString e)

/-- Do something with files and keep its error. -/
def attempt {α : Type} (action : IO α) : IO (Except FileError α) := do
  match ← action.toBaseIO with
  | .ok value => return .ok value
  | .error e => return .error (fileError e)

def padded (width n : Nat) : String :=
  let digits := toString n
  String.ofList (List.replicate (width - digits.length) '0') ++ digits

def timestamp : IO String := do
  let now := Std.Time.PlainDateTime.ofWallTime
    ((← Std.Time.Timestamp.now).toWallTime .zero)
  let date := now.date
  let time := now.time
  return padded 4 date.year.toInt.toNat ++ "-" ++ padded 2 date.month.val.toNat ++ "-" ++
    padded 2 date.day.val.toNat ++ "T" ++ padded 2 time.hour.val.toNat ++ ":" ++
    padded 2 time.minute.val.toNat ++ ":" ++ padded 2 time.second.val.toNat ++ "." ++
    padded 6 (time.nanosecond.val.toNat / 1000) ++ "Z"

/-- Open the log file to append to it. Where that fails, say so and log to the error stream. -/
def openLog (path : Option FilePath) : IO IO.FS.Stream := do
  match path with
  | none => IO.getStderr
  | some path =>
    match ← attempt (IO.FS.Handle.mk path .append) with
    | .ok handle => return IO.FS.Stream.ofHandle handle
    | .error e => do
      IO.eprintln ("Cannot open log file " ++ path ++ ": " ++ e.message)
      IO.getStderr

def readText (path : FilePath) : IO (Except FileError String) := do
  match ← attempt (IO.FS.readBinFile path) with
  | .error e => return .error e
  | .ok content =>
    match String.fromUTF8? content with
    | some text => return .ok text
    | none => return .error .notText

/-- Make a directory, which may be there already. -/
def ensureDirectory (path : FilePath) : IO (Except FileError Unit) := do
  match ← attempt (IO.FS.createDir path) with
  | .ok () => return .ok ()
  | .error e => if ← (System.mkFilePath [path]).isDir then return .ok () else return .error e

/-- Make a directory and those around it, given its names from the innermost one outwards. -/
def ensureDirectories (absolute : Bool) : List String → IO (Except FileError Unit)
  | [] => return .ok ()
  | name :: outer => do
    let path := (if absolute then "/" else "") ++ String.intercalate "/" (name :: outer).reverse
    match ← ensureDirectory path with
    | .error .notFound =>
      match ← ensureDirectories absolute outer with
      | .ok () => ensureDirectory path
      | .error e => return .error e
    | other => return other

instance : Host Run where
  fileExists path := (System.mkFilePath [path]).pathExists
  readText path := Console.readText path
  ensureParent path := ensureDirectories path.isAbsolute path.parentNames.reverse
  writeText path text := attempt (IO.FS.writeFile path text)
  startLog filter json path := do set (some (OpenLog.mk filter json (← openLog path)))
  log record := do
    match ← get with
    | some sink =>
      if sink.filter.admits record then
        sink.stream.putStr (record.line sink.json (← timestamp))
        sink.stream.flush
    | none => return ()
  print text := IO.print text

end Multihead.Console

open Multihead in
def main (arguments : List String) : IO UInt32 := do
  let env : Environment :=
    ⟨← IO.getEnv "HOME", ← IO.getEnv "XDG_CONFIG_HOME", ← IO.getEnv "RUST_LOG"⟩
  let (outcome, _) ← (Program.run env arguments : Console.Run Program.Outcome) none
  match outcome.error? Json.Fault.message with
  | some text => IO.eprintln text
  | none => if outcome.code = 2 then IO.eprintln Program.helpText
  return UInt32.ofNat outcome.code
