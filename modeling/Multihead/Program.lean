import Multihead.CommandLine.Read
import Multihead.Session

/-!
# The program

From the arguments of the program to its outcome: the command line is read, and the command that it
asks for is run.
-/

namespace Multihead.Program

inductive Outcome
  | done
  | failed (failure : Failure)
  | misused
deriving DecidableEq, Repr

def Outcome.code : Outcome → Nat
  | .done => 0
  | .failed _ => 1
  | .misused => 2

/-- What the user is told about an outcome, if it is a failure of the command. -/
def Outcome.error? (describe : Json.Fault → String) : Outcome → Option String
  | .failed failure => some ("Error: " ++ failure.message describe)
  | _ => none

def versionText : String := "monspan 0.1.0\n"

def helpText : String := Report.lines
  ["Multi-monitor fullscreen arrangement and selection",
    "",
    "Usage: monspan [-v] [-c CONFIG] COMMAND",
    "",
    "Commands:",
    "  layout [FILE]           List monitors in catalog order",
    "  resolve [FILE]          Resolve required monitors and the frame buffer for a selection",
    "      -s, --select TEXT     Selection such as \"1,3\" or \"all\"",
    "  parse TEXT              Validate a selection and print its canonical form",
    "  select [FILE]           Edit the saved monitor selection",
    "      -t, --toggle NUMBER   Toggle the monitor at this position",
    "      --all                 Use every monitor",
    "      --clear               Start from an empty selection",
    "      -m, --mode MODE       Mode to store: current, selected or all",
    "      --dry-run             Print the result without saving it",
    "  check                   Show the configuration file and fullscreen settings",
    "",
    "Options:",
    "  -v, --verbose           Enable verbose logging",
    "  -c, --config CONFIG     Configuration file",
    "  -h, --help              Print help",
    "  -V, --version           Print version"]

variable {m : Type → Type} [Monad m] [Host m]

def run (env : Environment) (arguments : List String) : m Outcome := do
  match CommandLine.read arguments with
  | .error .misuse => return .misused
  | .error .help => do
    Host.print helpText
    return .done
  | .error .version => do
    Host.print versionText
    return .done
  | .ok invocation =>
    match ← Session.run env invocation with
    | .ok () => return .done
    | .error failure => return .failed failure

end Multihead.Program
