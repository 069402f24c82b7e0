import Multihead.Machine
import Multihead.Proofs.FileSystem.Changes

/-!
# What a command does to a machine

Most commands only tell: they look at files, log records and print. `Told` relates a machine to a
later one to which nothing else was done; since records are only appended to the file of the log,
the other files are still the same. `Tells` says of one run of a command how it ends and what is
printed, and composes along the steps of the command (`Tells.bind`); `Quiet` says of a command that
it only tells, wherever it is run.
-/

namespace Multihead.Machine

open FileSystem

variable {s s' s'' : Machine} {text text' : String} {changed : Location → Prop}

/-- A machine on which nothing was done yet: nothing is printed and no log is open. -/
def fresh (files : FileSystem) (working : Location) (timestamp : String) : Machine :=
  { files, working, timestamp }

/-! ## Telling -/

/-- The log, if one is open, goes to a file. -/
def LogReady (s : Machine) : Prop :=
  ∀ sink ∈ s.sink, ∃ content, s.files.file? sink.location = some content

/-- Whether the log goes to a place. -/
def LogsTo (s : Machine) (place : Location) : Prop := ∃ sink ∈ s.sink, sink.location = place

theorem logsTo_congr (h : s'.sink = s.sink) : s'.LogsTo = s.LogsTo := by
  unfold LogsTo
  rw [h]

/-- The file of the log stays where other files change. -/
theorem LogReady.of_evolves (h : s.LogReady) (hsink : s'.sink = s.sink)
    (hfiles : Evolves changed s.files s'.files) (hother : ∀ l, s.LogsTo l → ¬ changed l) :
    s'.LogReady := by
  intro sink hmem
  rw [hsink] at hmem
  rw [hfiles.file _ (hother _ ⟨sink, hmem, rfl⟩)]
  exact h sink hmem

/-- Nothing was done to the machine but to log records and to print a text. -/
structure Told (s s' : Machine) (text : String) : Prop where
  printed : s'.printed = s.printed ++ text
  working : s'.working = s.working
  sink : s'.sink = s.sink
  ready : s.LogReady → s'.LogReady
  files : s.LogReady → SameBut s.LogsTo s.files s'.files

theorem Told.refl (s : Machine) : Told s s "" :=
  ⟨String.append_empty.symm, rfl, rfl, id, fun _ => .refl _ _⟩

theorem Told.trans (h : Told s s' text) (h' : Told s' s'' text') : Told s s'' (text ++ text') where
  printed := by rw [h'.printed, h.printed, String.append_assoc]
  working := h'.working.trans h.working
  sink := h'.sink.trans h.sink
  ready hready := h'.ready (h.ready hready)
  files hready := by
    have hfiles := h'.files (h.ready hready)
    rw [logsTo_congr h.sink] at hfiles
    exact (h.files hready).trans hfiles

theorem told_logged (s : Machine) (record : Log.Record) : Told s (s.logged record) "" := by
  unfold logged
  split
  · next sink hsink =>
    split
    -- The file of an open log is there and is no directory, so that appending changes it alone.
    · have hnode (hready : s.LogReady) : s.files.node? sink.location ≠ some .directory := by
        obtain ⟨content, hfile⟩ := hready sink hsink
        rw [file?_eq_some_iff.1 hfile]
        exact nofun
      refine ⟨String.append_empty.symm, rfl, rfl, fun hready => ?_, fun hready => ?_⟩
      · intro sink' hsink'
        obtain rfl : sink = sink' := Option.some.inj (hsink.symm.trans hsink')
        exact ⟨_, file?_put_self (ne_nil_of_not_directory (hnode hready)) _⟩
      · exact (sameBut_appendText (hnode hready) _).mono fun l hl => ⟨sink, hsink, hl.symm⟩
    · exact .refl s
  · exact .refl s

theorem told_print (s : Machine) (text : String) :
    Told s { s with printed := s.printed ++ text } text :=
  ⟨rfl, rfl, rfl, id, fun _ => .refl _ _⟩

/-! ## Commands that only tell -/

section Commands

variable {α β : Type} {command : ExceptT Failure (StateM Machine) α}
  {next : α → ExceptT Failure (StateM Machine) β} {outcome : Except Failure α}
  {ending : Except Failure β} {value : α} {failure : Failure}

/-- The outcome of a command on a machine, and the machine afterwards. -/
def outcomeOf (command : ExceptT Failure (StateM Machine) α) (s : Machine) :
    Except Failure α × Machine := (command.run).run s

theorem outcomeOf_bind (command : ExceptT Failure (StateM Machine) α)
    (next : α → ExceptT Failure (StateM Machine) β) (s : Machine) :
    outcomeOf (command >>= next) s =
      match outcomeOf command s with
      | (.ok value, s') => outcomeOf (next value) s'
      | (.error failure, s') => (.error failure, s') := by
  simp only [outcomeOf, ExceptT.run_bind, StateT.run_bind]
  rcases command.run.run s with ⟨_ | _, s'⟩ <;> rfl

/-- A command succeeds if its two parts do, one after the other. -/
theorem outcomeOf_bind_eq_ok {value : β} (h : outcomeOf (command >>= next) s = (.ok value, s'')) :
    ∃ between s', outcomeOf command s = (.ok between, s') ∧
      outcomeOf (next between) s' = (.ok value, s'') := by
  rw [outcomeOf_bind] at h
  rcases hfirst : outcomeOf command s with ⟨failure | between, s'⟩
  · rw [hfirst] at h
    cases h
  · rw [hfirst] at h
    exact ⟨between, s', rfl, h⟩

@[simp] theorem outcomeOf_pure (value : α) (s : Machine) :
    outcomeOf (pure value) s = (.ok value, s) := rfl

@[simp] theorem outcomeOf_settle {ε : Type} (failure : ε → Failure) (result : Except ε α)
    (s : Machine) : outcomeOf (Host.settle failure result) s = (result.mapError failure, s) := by
  cases result <;> rfl

@[simp] theorem outcomeOf_fileExists (path : FilePath) (s : Machine) :
    outcomeOf (Host.fileExists path) s = (.ok (s.files.exists? s.working path), s) := rfl

@[simp] theorem outcomeOf_readText (path : FilePath) (s : Machine) :
    outcomeOf (Host.readText path) s = (.ok (s.files.readText s.working path), s) := rfl

@[simp] theorem outcomeOf_ensureParent (path : FilePath) (s : Machine) :
    outcomeOf (Host.ensureParent path) s =
      (.ok (s.files.makeParent s.working path).1,
        { s with files := (s.files.makeParent s.working path).2 }) := rfl

@[simp] theorem outcomeOf_writeText (path : FilePath) (text : String) (s : Machine) :
    outcomeOf (Host.writeText path text) s =
      (.ok (s.files.settle (s.files.writeText s.working path text)).1,
        { s with files := (s.files.settle (s.files.writeText s.working path text)).2 }) := rfl

/-- A run of the command ends with the outcome after the text was printed, and does nothing else but
to log. -/
def Tells (s : Machine) (command : ExceptT Failure (StateM Machine) α) (outcome : Except Failure α)
    (text : String) : Prop :=
  ∃ s', outcomeOf command s = (outcome, s') ∧ Told s s' text

/-- Every run of the command only tells. -/
def Quiet (command : ExceptT Failure (StateM Machine) α) : Prop :=
  ∀ s, ∃ outcome text, Tells s command outcome text

theorem Tells.bind (h : Tells s command (.ok value) text)
    (hnext : ∀ s', Told s s' text → Tells s' (next value) ending text') :
    Tells s (command >>= next) ending (text ++ text') := by
  obtain ⟨s', hrun, htold⟩ := h
  obtain ⟨s'', hrun', htold'⟩ := hnext s' htold
  refine ⟨s'', ?_, htold.trans htold'⟩
  rw [outcomeOf_bind, hrun]
  exact hrun'

/-- After a step that leaves the machine alone. -/
theorem Tells.bind_look (h : outcomeOf command s = (.ok value, s))
    (hnext : Tells s (next value) ending text) : Tells s (command >>= next) ending text := by
  obtain ⟨s', hrun, htold⟩ := hnext
  refine ⟨s', ?_, htold⟩
  rw [outcomeOf_bind, h]
  exact hrun

/-- After a step that prints nothing. -/
theorem Tells.bind_silent (h : Tells s command (.ok value) "")
    (hnext : ∀ s', Told s s' "" → Tells s' (next value) ending text) :
    Tells s (command >>= next) ending text := by
  have hbind := h.bind hnext
  rwa [String.empty_append] at hbind

theorem Tells.bind_error (h : Tells s command (.error failure) text) :
    Tells s (command >>= next) (.error failure) text := by
  obtain ⟨s', hrun, htold⟩ := h
  refine ⟨s', ?_, htold⟩
  rw [outcomeOf_bind, hrun]

theorem Quiet.bind (h : Quiet command) (hnext : ∀ value, Quiet (next value)) :
    Quiet (command >>= next) := by
  intro s
  obtain ⟨outcome, text, htells⟩ := h s
  cases outcome with
  | error failure => exact ⟨_, _, htells.bind_error⟩
  | ok value =>
    obtain ⟨s', hrun, htold⟩ := htells
    obtain ⟨ending, text', s'', hrun', htold'⟩ := hnext value s'
    refine ⟨ending, text ++ text', s'', ?_, htold.trans htold'⟩
    rw [outcomeOf_bind, hrun]
    exact hrun'

/-- A step that leaves the machine alone tells nothing. -/
theorem tells_of_outcomeOf (h : outcomeOf command s = (outcome, s)) : Tells s command outcome "" :=
  ⟨s, h, .refl s⟩

theorem tells_pure (s : Machine) (value : α) : Tells s (pure value) (.ok value) "" :=
  tells_of_outcomeOf rfl

theorem tells_throw (s : Machine) (failure : Failure) :
    Tells s (throw failure : ExceptT Failure (StateM Machine) α) (.error failure) "" :=
  tells_of_outcomeOf rfl

theorem tells_settle {ε : Type} (s : Machine) (failure : ε → Failure) (result : Except ε α) :
    Tells s (Host.settle failure result) (result.mapError failure) "" :=
  tells_of_outcomeOf (outcomeOf_settle failure result s)

theorem tells_log (s : Machine) (record : Log.Record) : Tells s (Host.log record) (.ok ()) "" :=
  ⟨_, rfl, told_logged s record⟩

theorem tells_print (s : Machine) (text : String) : Tells s (Host.print text) (.ok ()) text :=
  ⟨_, rfl, told_print s text⟩

theorem tells_logAll (s : Machine) (records : List Log.Record) :
    Tells s (Host.logAll records) (.ok ()) "" := by
  induction records generalizing s with
  | nil => exact tells_pure s ()
  | cons record records ih => exact (tells_log s record).bind_silent fun s' _ => ih s'

theorem tells_report (s : Machine) (logged : Logged α) :
    Tells s (Host.report logged) (.ok logged.value) "" :=
  (tells_logAll s logged.records).bind_silent fun s' _ => tells_pure s' logged.value

theorem tells_reportAttempt (s : Machine) (attempt : ExceptT Failure Logged α) :
    Tells s (Host.reportAttempt attempt) attempt.run.value "" := by
  have hsettle (s' : Machine) :
      Tells s' (Host.settle id attempt.run.value) attempt.run.value "" := by
    have h := tells_settle s' id attempt.run.value
    cases hvalue : attempt.run.value <;> rw [hvalue] at h <;> exact h
  exact (tells_report s attempt.run).bind_silent fun s' _ => hsettle s'

theorem quiet_settle {ε : Type} (failure : ε → Failure) (result : Except ε α) :
    Quiet (Host.settle failure result) := fun s => ⟨_, _, tells_settle s failure result⟩

theorem quiet_print (text : String) : Quiet (Host.print text) :=
  fun s => ⟨_, _, tells_print s text⟩

theorem quiet_report (logged : Logged α) : Quiet (Host.report logged) :=
  fun s => ⟨_, _, tells_report s logged⟩

end Commands

/-! ## Starting the log -/

/-- The machine once the log was started. -/
def logStarted (s : Machine) (filter : Log.Filter) (json : Bool) (path : Option FilePath) :
    Machine :=
  ((Host.startLog filter json path : StateM Machine Unit).run s).2

/-- The place of the log and the files once it was opened, if it can be. -/
def openedLog (files : FileSystem) (working : Location) (path : Option FilePath) :
    Option (Location × FileSystem) :=
  path.bind fun log => (files.openAppend working log).toOption

/-- The files once the log was started. -/
def filesWithLog (files : FileSystem) (working : Location) (path : Option FilePath) : FileSystem :=
  ((openedLog files working path).map (·.2)).getD files

theorem logStarted_eq (s : Machine) (filter : Log.Filter) (json : Bool) (path : Option FilePath) :
    s.logStarted filter json path =
      match openedLog s.files s.working path with
      | some (location, files) => { s with files, sink := some ⟨filter, json, location⟩ }
      | none => s := by
  cases path with
  | none => rfl
  | some log =>
    simp only [logStarted, openedLog, Host.startLog, StateT.run_modify, Option.map_some,
      Option.bind_some]
    cases s.files.openAppend s.working log <;> rfl

/-- What is logged and in which form does not matter to the files. -/
theorem files_logStarted (s : Machine) (filter : Log.Filter) (json : Bool)
    (path : Option FilePath) :
    (s.logStarted filter json path).files = filesWithLog s.files s.working path := by
  rw [logStarted_eq, filesWithLog]
  cases openedLog s.files s.working path <;> rfl

theorem logStarted_unchanged (s : Machine) (filter : Log.Filter) (json : Bool)
    (path : Option FilePath) :
    (s.logStarted filter json path).printed = s.printed ∧
      (s.logStarted filter json path).working = s.working := by
  rw [logStarted_eq]
  cases openedLog s.files s.working path <;> exact ⟨rfl, rfl⟩

/-- The log goes to the file of its path, and to open it changes nothing else. -/
theorem logStarted_spec (filter : Log.Filter) (json : Bool) (path : Option FilePath)
    (hsink : s.sink = none) :
    (s.logStarted filter json path).LogReady ∧
      (∀ l, (s.logStarted filter json path).LogsTo l →
        path.bind (FilePath.filePlace? s.working) = some l) ∧
      SameBut (s.logStarted filter json path).LogsTo s.files
        (s.logStarted filter json path).files := by
  rw [logStarted_eq]
  cases hopened : openedLog s.files s.working path with
  | none =>
    have hnone (sink : LogSink) : sink ∉ s.sink := by rw [hsink]; exact nofun
    exact ⟨fun sink h => absurd h (hnone sink), fun l ⟨sink, h, _⟩ => absurd h (hnone sink),
      .refl _ _⟩
  | some opened =>
    obtain ⟨location, files⟩ := opened
    obtain ⟨log, rfl, hopen⟩ := Option.bind_eq_some_iff.1 hopened
    have happend : s.files.openAppend s.working log = .ok (location, files) := by
      cases happend : s.files.openAppend s.working log with
      | error e =>
        rw [happend] at hopen
        cases hopen
      | ok opened =>
        rw [happend] at hopen
        cases hopen
        rfl
    obtain ⟨hplace, hfile, hfiles⟩ := openAppend_eq_ok happend
    refine ⟨fun sink hsome => ?_, fun l ⟨sink, hsome, hl⟩ => ?_, hfiles.mono fun l hl => ?_⟩
    · obtain rfl := Option.some.inj hsome
      exact hfile
    · obtain rfl := Option.some.inj hsome
      exact hplace.trans (congrArg some hl)
    · exact ⟨_, rfl, hl.symm⟩

end Multihead.Machine
