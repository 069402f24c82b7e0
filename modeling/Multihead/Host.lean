import Multihead.Failure
import Multihead.Log.Filter

/-!
# What a command needs of its host

A command looks at files, writes one, prints and logs. It does so through a `Host`, so that it can
run on a machine that is only a value as well as on a real one.
-/

namespace Multihead

/-- The operations of the machine that a command runs on. -/
class Host (m : Type → Type) where
  /-- Whether there is something at the end of a path. -/
  fileExists : FilePath → m Bool
  readText : FilePath → m (Except FileError String)
  /-- Make the directory that a path is in, and those around it. -/
  ensureParent : FilePath → m (Except FileError Unit)
  /-- Write a file, instead of what it held. -/
  writeText : FilePath → String → m (Except FileError Unit)
  /-- Log the records that a filter wants from now on: as JSON objects or as text, to the end of a
  file if one is given and can be opened. -/
  startLog : Log.Filter → Bool → Option FilePath → m Unit
  log : Log.Record → m Unit
  print : String → m Unit

namespace Host

variable {m : Type → Type} [Monad m] [Host m] {α : Type}

/-- Log the records of a value one after the other. -/
def logAll : List Log.Record → m Unit
  | [] => pure ()
  | record :: records => do
    log record
    logAll records

/-- Log what was recorded on the way to a value. -/
def report (logged : Logged α) : m α := do
  logAll logged.records
  return logged.value

/-- Go on with a result, or fail. -/
def settle {ε : Type} (failure : ε → Failure) : Except ε α → ExceptT Failure m α
  | .ok value => pure value
  | .error e => throw (failure e)

/-- A command that may fail uses the host that it runs on. -/
instance : Host (ExceptT Failure m) where
  fileExists path := ExceptT.lift (fileExists path)
  readText path := ExceptT.lift (readText path)
  ensureParent path := ExceptT.lift (ensureParent path)
  writeText path text := ExceptT.lift (writeText path text)
  startLog filter json path := ExceptT.lift (startLog filter json path)
  log record := ExceptT.lift (log record)
  print text := ExceptT.lift (print text)

/-- Log what was recorded on the way to a result, and go on with it or fail. -/
def reportAttempt (attempt : ExceptT Failure Logged α) : ExceptT Failure m α := do
  settle id (← report attempt.run)

end Host

end Multihead
