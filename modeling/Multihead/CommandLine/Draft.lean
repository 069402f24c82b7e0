import Multihead.Command
import Multihead.Text.Decimal

/-!
# Options and what they say

The command line has two levels: the program's own, and that of a command. Each level knows some
options, of which two are common to all levels. What was said at a level is collected in a draft.
-/

namespace Multihead.CommandLine

inductive Opt
  | verbose
  | config
  | help
  | version
  | select
  | toggle
  | all
  | clear
  | mode
  | dryRun
deriving DecidableEq, Repr

namespace Opt

/-- The name after two dashes. -/
def long : Opt → String
  | verbose => "verbose"
  | config => "config"
  | help => "help"
  | version => "version"
  | select => "select"
  | toggle => "toggle"
  | all => "all"
  | clear => "clear"
  | mode => "mode"
  | dryRun => "dry-run"

/-- The letter after one dash. -/
def short : Opt → Option Char
  | verbose => some 'v'
  | config => some 'c'
  | help => some 'h'
  | version => some 'V'
  | select => some 's'
  | toggle => some 't'
  | mode => some 'm'
  | all => none
  | clear => none
  | dryRun => none

def takesValue : Opt → Bool
  | config => true
  | select => true
  | toggle => true
  | mode => true
  | _ => false

end Opt

inductive Verb
  | layout
  | resolve
  | parse
  | select
  | check
deriving DecidableEq, Repr

/-- The names that are understood. -/
def Verb.ofName? : String → Option Verb
  | "layout" => some .layout
  | "resolve" => some .resolve
  | "parse" => some .parse
  | "select" => some .select
  | "check" => some .check
  | _ => none

inductive Level
  | program
  | command (verb : Verb)
deriving DecidableEq, Repr

/-- The options of every level. -/
def commonOpts : List Opt := [.verbose, .config, .help]

def Level.opts : Level → List Opt
  | .program => .version :: commonOpts
  | .command .resolve => .select :: commonOpts
  | .command .select => [.toggle, .all, .clear, .mode, .dryRun] ++ commonOpts
  | .command _ => commonOpts

/-- What may stand at a level besides options. -/
inductive Operand
  | nothing
  | file
  | text
deriving DecidableEq, Repr

def Level.operand : Level → Operand
  | .program => .nothing
  | .command .check => .nothing
  | .command .parse => .text
  | .command _ => .file

/-- Why there is no command to run. -/
inductive Stop
  | misuse
  | help
  | version
deriving DecidableEq, Repr

/-- What was said at a level so far. -/
structure Draft where
  verbose : Bool := false
  config : Option FilePath := none
  selection : Option String := none
  edit : Edit := {}
  dryRun : Bool := false
  operand : Option String := none
deriving DecidableEq, Repr, Inhabited

namespace Draft

/-- Set a flag, which may be given only once. -/
def once (given : Bool) (d : Draft) : Except Stop Draft :=
  if given then .error .misuse else .ok d

/-- The largest number that a position may be given as. -/
def maxPosition : Nat := 18446744073709551615

def position? (text : String) : Option Nat := (Text.decimal? text.toList).filter (· ≤ maxPosition)

/-- Take in an option that has no value. -/
def giveFlag (d : Draft) : Opt → Except Stop Draft
  | .verbose => once d.verbose { d with verbose := true }
  | .all => once d.edit.all { d with edit := { d.edit with all := true } }
  | .clear => once d.edit.clear { d with edit := { d.edit with clear := true } }
  | .dryRun => once d.dryRun { d with dryRun := true }
  | .help => .error .help
  | .version => .error .version
  | _ => .error .misuse

/-- Take in an option with its value. Only a toggle may be repeated. -/
def giveValue (d : Draft) (value : String) : Opt → Except Stop Draft
  | .config =>
    if value = "" then .error .misuse
    else once d.config.isSome { d with config := some value }
  | .select => once d.selection.isSome { d with selection := some value }
  | .toggle =>
    match position? value with
    | some n => .ok { d with edit := { d.edit with toggles := d.edit.toggles ++ [n] } }
    | none => .error .misuse
  | .mode =>
    match FullscreenMode.parse value with
    | .ok mode => once d.edit.mode.isSome { d with edit := { d.edit with mode := some mode } }
    | .error _ => .error .misuse
  | _ => .error .misuse

def giveOperand (d : Draft) (value : String) : Operand → Except Stop Draft
  | .nothing => .error .misuse
  | .file => if value = "" then .error .misuse else .ok { d with operand := some value }
  | .text => .ok { d with operand := some value }

def command (d : Draft) : Verb → Except Stop Command
  | .layout => .ok (.layout d.operand)
  | .resolve => .ok (.resolve d.operand d.selection)
  | .parse =>
    match d.operand with
    | some text => .ok (.parse text)
    | none => .error .misuse
  | .select =>
    if d.edit.all && (d.edit.clear || !d.edit.toggles.isEmpty || d.edit.mode.isSome) then
      .error .misuse
    else .ok (.select d.operand d.edit d.dryRun)
  | .check => .ok .check

end Draft

end Multihead.CommandLine
