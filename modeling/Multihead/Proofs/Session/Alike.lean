import Multihead.Proofs.Machine.Alike
import Multihead.Proofs.Session

/-!
# Commands on machines that log different records

A command reads a layout, if it reads one, before it logs anything. From machines with the same
files it therefore gets the same layout, even where that is the file of the log, and whatever it
does afterwards ignores the log. So it does the same on both machines (`sameOn_perform`).
-/

namespace Multihead.Session

open Machine

variable {settings : Settings} {file : Option FilePath} {s s' : Machine} {log : Location → Prop}

/-! ## Commands that ignore the log -/

theorem ignoresLog_resolveText (a : Arrangement) (text : String) :
    IgnoresLog (resolveText a text : ExceptT Failure (StateM Machine) Arrangement) := by
  refine .bind (ignoresLog_report _) fun a => ?_
  refine .bind (ignoresLog_report _) fun (outcome, a) => ?_
  refine .bind (ignoresLog_settle _ _) fun report => ?_
  exact .bind (ignoresLog_print _) fun _ => ignoresLog_of_tells fun s => tells_pure s a

theorem ignoresLog_showSelectionText (text : String) :
    IgnoresLog (showSelectionText text : ExceptT Failure (StateM Machine) Unit) :=
  .bind (ignoresLog_settle _ _) fun _ => ignoresLog_print _

theorem ignoresLog_showSettings (settings : Settings) (path : FilePath) :
    IgnoresLog (showSettings settings path : ExceptT Failure (StateM Machine) Unit) := by
  refine .bind (ignoresLog_fileExists path) fun found => ?_
  cases settings.layoutFile with
  | none => exact ignoresLog_print _
  | some layout => exact .bind (ignoresLog_fileExists layout) fun _ => ignoresLog_print _

theorem ignoresLog_save (settings : Settings) (path : FilePath) :
    IgnoresLog (settings.save path : ExceptT Failure (StateM Machine) Unit) := by
  refine .bind (ignoresLog_ensureParent path) fun result => ?_
  refine .bind (ignoresLog_settle _ _) fun _ => ?_
  refine .bind (ignoresLog_writeText path _) fun result => ?_
  exact ignoresLog_settle _ _

theorem ignoresLog_conclude (settings : Settings) (path : FilePath) (dryRun : Bool)
    (fullscreen : FullscreenSettings) :
    IgnoresLog (conclude settings path dryRun fullscreen) := by
  unfold conclude
  split
  · exact ignoresLog_print _
  · refine .bind (ignoresLog_save _ path) fun _ => ?_
    refine .bind (ignoresLog_of_tells fun s => tells_log s _) fun _ => ?_
    exact ignoresLog_print _

/-! ## From the same files -/

section SameFiles

variable (h : Alike log s s') (hfiles : s'.files = s.files)
include h hfiles

theorem sameOn_loadLayout (settings : Settings) (file : Option FilePath) :
    SameOn log (loadLayout settings file) s s' := by
  have htells := tells_loadLayout s' settings file
  rw [hfiles, h.working] at htells
  exact sameOn_of_tells h (tells_loadLayout s settings file) htells

theorem sameOn_loadArrangement (settings : Settings) (file : Option FilePath) :
    SameOn log (loadArrangement settings file) s s' :=
  (sameOn_loadLayout h hfiles settings file).bind fun _ => ignoresLog_report _

theorem sameOn_showLayout (settings : Settings) (file : Option FilePath) :
    SameOn log (showLayout settings file) s s' := by
  refine (sameOn_loadLayout h hfiles settings file).bind fun layout => ?_
  refine .bind (ignoresLog_report _) fun displays => ?_
  cases desktopBounds displays with
  | none => exact ignoresLog_print _
  | some bounds =>
    refine .bind (ignoresLog_settle _ _) fun built => ?_
    exact .bind (ignoresLog_report _) fun catalog => ignoresLog_print _

theorem sameOn_showResolution (settings : Settings) (file : Option FilePath)
    (selection : Option String) : SameOn log (showResolution settings file selection) s s' := by
  refine (sameOn_loadArrangement h hfiles settings file).bind fun saved => ?_
  have hshow (a : Arrangement) : IgnoresLog (do
      if a.mode = .current then Host.print Report.followsWindow
      else
        Host.print (Report.resolution a)
        Host.print (Report.primary (← Host.report a.primary)) :
        ExceptT Failure (StateM Machine) Unit) := by
    split
    · exact ignoresLog_print _
    · refine .bind (ignoresLog_print _) fun _ => ?_
      exact .bind (ignoresLog_report _) fun primary => ignoresLog_print _
  cases selection with
  | none => exact hshow saved
  | some text => exact (ignoresLog_resolveText saved text).bind hshow

theorem sameOn_editSelection (settings : Settings) (path : FilePath) (file : Option FilePath)
    (edit : Edit) (dryRun : Bool) :
    SameOn log (editSelection settings path file edit dryRun) s s' := by
  have hedited : SameOn log (edited settings file edit) s s' :=
    (sameOn_loadArrangement h hfiles settings file).bind fun a =>
      ignoresLog_of_tells fun s => tells_reportAttempt s _
  rw [editSelection_eq]
  refine hedited.bind fun a => ?_
  refine .bind (ignoresLog_report _) fun fullscreen => ?_
  refine .bind (ignoresLog_print _) fun _ => ?_
  exact ignoresLog_conclude settings path dryRun fullscreen

/-- A command does the same on machines that only log different records. -/
theorem sameOn_perform (settings : Settings) (path : FilePath) (command : Command) :
    SameOn log (perform settings path command) s s' := by
  cases command with
  | layout file => exact sameOn_showLayout h hfiles settings file
  | resolve file selection => exact sameOn_showResolution h hfiles settings file selection
  | parse text => exact ignoresLog_showSelectionText text log s s' h
  | select file edit dryRun => exact sameOn_editSelection h hfiles settings path file edit dryRun
  | check => exact ignoresLog_showSettings settings path log s s' h

end SameFiles

end Multihead.Session
