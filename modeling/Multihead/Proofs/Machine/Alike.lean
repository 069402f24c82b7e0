import Multihead.Proofs.FileSystem.Alike
import Multihead.Proofs.Machine

/-!
# Two machines that log different records

Two machines are alike if they differ only in what their logs take: the filter, the form and the
time of records, and the content of the log file (`Alike`). A command that never looks into the log
file cannot tell them apart: it ends in the same way on both and leaves them alike
(`IgnoresLog`). That holds of every operation of a host but reading a file, and composes along the
steps of a command (`SameOn.bind`).
-/

namespace Multihead.Machine

open FileSystem

variable {s s' t t' : Machine} {text : String} {log : Location → Prop}

/-- The machines log to the same place, and differ at most in what is logged and in the file
there. -/
structure Alike (log : Location → Prop) (s s' : Machine) : Prop where
  printed : s'.printed = s.printed
  working : s'.working = s.working
  logsTo : s.LogsTo = log
  logsTo' : s'.LogsTo = log
  files : AlikeBut log s.files s'.files

theorem logReady_iff :
    s.LogReady ↔ ∀ l, s.LogsTo l → ∃ content, s.files.file? l = some content := by
  constructor
  · rintro hready l ⟨sink, hsink, rfl⟩
    exact hready sink hsink
  · intro hfiles sink hsink
    exact hfiles _ ⟨sink, hsink, rfl⟩

theorem Alike.ready (h : Alike log s s') : s.LogReady ∧ s'.LogReady := by
  rw [logReady_iff, logReady_iff, h.logsTo, h.logsTo']
  exact ⟨fun l hl => (h.files.files l hl).1, fun l hl => (h.files.files l hl).2⟩

/-- Machines stay alike if the same text is printed on both, whatever is logged besides. -/
theorem Alike.of_told (h : Alike log s s') (ht : Told s t text) (ht' : Told s' t' text) :
    Alike log t t' := by
  obtain ⟨hready, hready'⟩ := h.ready
  have hlogs : t.LogsTo = log := (logsTo_congr ht.sink).trans h.logsTo
  have hlogs' : t'.LogsTo = log := (logsTo_congr ht'.sink).trans h.logsTo'
  refine ⟨?_, ?_, hlogs, hlogs', ?_⟩
  · rw [ht'.printed, h.printed, ht.printed]
  · rw [ht'.working, h.working, ht.working]
  · have hfiles := ht.files hready
    have hfiles' := ht'.files hready'
    rw [h.logsTo] at hfiles
    rw [h.logsTo'] at hfiles'
    refine h.files.of_sameBut hfiles hfiles' fun l hl => ⟨?_, ?_⟩
    · exact logReady_iff.1 (ht.ready hready) l (hlogs ▸ hl)
    · exact logReady_iff.1 (ht'.ready hready') l (hlogs' ▸ hl)

/-- Machines stay alike if both get files that are. -/
theorem Alike.with_files {files files' : FileSystem} (h : Alike log s s')
    (hfiles : AlikeBut log files files') :
    Alike log { s with files } { s' with files := files' } :=
  ⟨h.printed, h.working, h.logsTo, h.logsTo', hfiles⟩

/-- The log is started from the same files alike, whatever it is to take. -/
theorem alike_logStarted (files : FileSystem) (working : Location) (timestamp timestamp' : String)
    (filter filter' : Log.Filter) (json : Bool) (path : Option FilePath) :
    let t := (fresh files working timestamp).logStarted filter json path
    let t' := (fresh files working timestamp').logStarted filter' json path
    t'.files = t.files ∧ Alike t.LogsTo t t' := by
  intro t t'
  have hfiles : t'.files = t.files := by rw [files_logStarted, files_logStarted]; rfl
  have hready : t.LogReady := (logStarted_spec filter json path rfl).1
  have hlogs : t'.LogsTo = t.LogsTo := by
    simp only [t, t', logStarted_eq, fresh]
    funext l
    cases openedLog files working path with
    | none => rfl
    | some opened => simp [LogsTo]
  obtain ⟨hprinted, hworking⟩ :=
    logStarted_unchanged (fresh files working timestamp) filter json path
  obtain ⟨hprinted', hworking'⟩ :=
    logStarted_unchanged (fresh files working timestamp') filter' json path
  refine ⟨hfiles, hprinted'.trans hprinted.symm, hworking'.trans hworking.symm, rfl, hlogs, ?_⟩
  exact .of_eq hfiles (logReady_iff.1 hready)

/-! ## Commands that ignore the log -/

variable {α β : Type} {command : ExceptT Failure (StateM Machine) α}
  {next : α → ExceptT Failure (StateM Machine) β} {outcome : Except Failure α}

/-- The command ends in the same way on both machines and leaves them alike. -/
structure SameOn (log : Location → Prop) (command : ExceptT Failure (StateM Machine) α)
    (s s' : Machine) : Prop where
  outcome : (outcomeOf command s').1 = (outcomeOf command s).1
  alike : Alike log (outcomeOf command s).2 (outcomeOf command s').2

/-- The command cannot tell machines that are alike from each other. -/
def IgnoresLog (command : ExceptT Failure (StateM Machine) α) : Prop :=
  ∀ log s s', Alike log s s' → SameOn log command s s'

theorem SameOn.bind (h : SameOn log command s s') (hnext : ∀ value, IgnoresLog (next value)) :
    SameOn log (command >>= next) s s' := by
  obtain ⟨houtcome, halike⟩ := h
  rcases hrun : outcomeOf command s with ⟨outcome, t⟩
  rcases hrun' : outcomeOf command s' with ⟨outcome', t'⟩
  rw [hrun, hrun'] at houtcome halike
  obtain rfl : outcome' = outcome := houtcome
  constructor
  all_goals rw [outcomeOf_bind, outcomeOf_bind, hrun, hrun']
  · cases outcome' with
    | error failure => rfl
    | ok value => exact (hnext value log t t' halike).outcome
  · cases outcome' with
    | error failure => exact halike
    | ok value => exact (hnext value log t t' halike).alike

theorem IgnoresLog.bind (h : IgnoresLog command) (hnext : ∀ value, IgnoresLog (next value)) :
    IgnoresLog (command >>= next) := by
  intro log s s' halike
  exact (h log s s' halike).bind hnext

/-- A command that tells the same on both machines leaves them alike. -/
theorem sameOn_of_tells (halike : Alike log s s') (h : Tells s command outcome text)
    (h' : Tells s' command outcome text) : SameOn log command s s' := by
  obtain ⟨t, hrun, htold⟩ := h
  obtain ⟨t', hrun', htold'⟩ := h'
  constructor
  · rw [hrun, hrun']
  · rw [hrun, hrun']
    exact halike.of_told htold htold'

theorem ignoresLog_of_tells (h : ∀ s, Tells s command outcome text) : IgnoresLog command := by
  intro log s s' halike
  exact sameOn_of_tells halike (h s) (h s')

theorem ignoresLog_settle {ε : Type} (failure : ε → Failure) (result : Except ε α) :
    IgnoresLog (Host.settle failure result) :=
  ignoresLog_of_tells fun s => tells_settle s failure result

theorem ignoresLog_report (logged : Logged α) : IgnoresLog (Host.report logged) :=
  ignoresLog_of_tells fun s => tells_report s logged

theorem ignoresLog_print (text : String) : IgnoresLog (Host.print text) :=
  ignoresLog_of_tells fun s => tells_print s text

theorem ignoresLog_fileExists (path : FilePath) : IgnoresLog (Host.fileExists path) := by
  intro log s s' halike
  have hexists : s'.files.exists? s'.working path = s.files.exists? s.working path := by
    rw [halike.working, halike.files.exists?]
  constructor
  · simp only [outcomeOf_fileExists, hexists]
  · exact halike

theorem ignoresLog_ensureParent (path : FilePath) : IgnoresLog (Host.ensureParent path) := by
  intro log s s' halike
  obtain ⟨hresult, hfiles⟩ := halike.files.makeParent s.working path
  refine ⟨?_, halike.with_files ?_⟩
  · simp only [outcomeOf_ensureParent, halike.working, hresult]
  · rw [halike.working]
    exact hfiles

theorem ignoresLog_writeText (path : FilePath) (text : String) :
    IgnoresLog (Host.writeText path text) := by
  intro log s s' halike
  obtain ⟨hresult, hfiles⟩ := halike.files.settle (halike.files.writeText s.working path text)
  refine ⟨?_, halike.with_files ?_⟩
  · simp only [outcomeOf_writeText, halike.working, hresult]
  · rw [halike.working]
    exact hfiles

end Multihead.Machine
