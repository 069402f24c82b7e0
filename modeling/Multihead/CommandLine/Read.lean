import Multihead.CommandLine.Draft

/-!
# Reading a command line

The arguments are read one by one. An option that takes a value waits for the next argument, unless
its value is attached to it; what looks like an option is never taken as a value. A value that was
found is judged when the next option or operand is met, or at the end. Two dashes make everything
after them an operand.
-/

namespace Multihead.CommandLine

/-- What was found but not judged yet. -/
inductive Pending
  | none
  /-- An option that waits for its value. -/
  | waiting (opt : Opt)
  | value (opt : Opt) (text : String)
  /-- The operand of the level. -/
  | operand (text : String)
deriving DecidableEq, Repr

/-- How far a level was read. -/
structure Progress where
  draft : Draft := {}
  pending : Pending := .none
  operandFound : Bool := false
deriving DecidableEq, Repr, Inhabited

namespace Progress

def settle (p : Progress) (level : Level) : Except Stop Progress :=
  match p.pending with
  | .none => .ok p
  | .waiting _ => .error .misuse
  | .value opt text => do return { p with draft := ← p.draft.giveValue text opt, pending := .none }
  | .operand text => do
    return { p with draft := ← p.draft.giveOperand text level.operand, pending := .none }

/-- Take in an option of which nothing is pending: a flag, or an option with the value that is
attached to it, or one that waits for its value. -/
def give (p : Progress) (opt : Opt) (attached : Option String) : Except Stop Progress :=
  if opt.takesValue then
    match attached with
    | some value => do return { p with draft := ← p.draft.giveValue value opt }
    | none => .ok { p with pending := .waiting opt }
  else
    match attached with
    | some _ => .error .misuse
    | none => do return { p with draft := ← p.draft.giveFlag opt }

/-- Take in the text of a long option, after its dashes. A value is attached by an equals sign. -/
def giveLong (p : Progress) (level : Level) (text : List Char) : Except Stop Progress := do
  let (name, rest) := text.span (· ≠ '=')
  match level.opts.find? (·.long = String.ofList name) with
  | none => .error .misuse
  | some opt =>
    let p ← p.settle level
    match rest with
    | '=' :: value => p.give opt (String.ofList value)
    | _ => p.give opt .none

/-- Take in the letters of short options, after their dash. What follows the letter of an option
with a value is that value; an equals sign may stand between them. -/
def giveShort (level : Level) : Progress → List Char → Except Stop Progress
  | p, [] => .ok p
  | p, c :: rest => do
    match level.opts.find? (·.short = some c) with
    | none => .error .misuse
    | some opt =>
      let p ← p.settle level
      if opt.takesValue then
        match rest with
        | [] => p.give opt .none
        | '=' :: value => p.give opt (String.ofList value)
        | value => p.give opt (String.ofList value)
      else giveShort level (← p.give opt .none) rest

/-- Take in the operand of a level, of which there is one at most. -/
def giveOperand (p : Progress) (level : Level) (text : String) : Except Stop Progress :=
  if p.operandFound || level.operand = .nothing then .error .misuse
  else do return { ← p.settle level with pending := .operand text, operandFound := true }

/-- Take in an argument that is not an option: the value that is waited for, or the operand. -/
def givePlain (p : Progress) (level : Level) (text : String) : Except Stop Progress :=
  match p.pending with
  | .waiting opt => .ok { p with pending := .value opt text }
  | _ => p.giveOperand level text

def isWaiting (p : Progress) : Bool :=
  match p.pending with
  | .waiting _ => true
  | _ => false

end Progress

/-- What an argument looks like. -/
inductive Shape
  | twoDashes
  | long (text : List Char)
  | short (letters : List Char)
  | plain
deriving DecidableEq, Repr

/-- The look of an argument. A single dash is nothing special. -/
def shape (argument : String) : Shape :=
  match argument.toList with
  | ['-', '-'] => .twoDashes
  | '-' :: '-' :: text => .long text
  | ['-'] => .plain
  | '-' :: letters => .short letters
  | _ => .plain

def readOperands (level : Level) : Progress → List String → Except Stop Progress
  | p, [] => .ok p
  | p, text :: rest => do readOperands level (← p.giveOperand level text) rest

/-- Take in one argument that is neither a command nor two dashes. -/
def readArgument (level : Level) (p : Progress) (argument : String) : Except Stop Progress :=
  match shape argument with
  | .long text => p.giveLong level text
  | .short letters => Progress.giveShort level p letters
  | _ => p.givePlain level argument

def readCommand (level : Level) : Progress → List String → Except Stop Progress
  | p, [] => p.settle level
  | p, argument :: rest => do
    if shape argument = .twoDashes then (← readOperands level p rest).settle level
    else readCommand level (← readArgument level p argument) rest

def helpName : String := "help"

/-- Read the arguments of the command that shows help: the name of a command, if any. -/
def readHelp : List String → Stop
  | [] => .help
  | [topic] => if topic = helpName || (Verb.ofName? topic).isSome then .help else .misuse
  | _ => .misuse

/-- Read the arguments after the name of a command, and join what was said at the two levels: what
the command's own level says about the settings file goes first. -/
def readInvocation (p : Progress) (verb : Verb) (arguments : List String) :
    Except Stop Invocation := do
  let inner ← readCommand (.command verb) {} arguments
  let command ← inner.draft.command verb
  let outer ← p.settle .program
  return ⟨outer.draft.verbose || inner.draft.verbose,
    inner.draft.config.or outer.draft.config, command⟩

/-- Read the arguments of the program from some progress on. While an option waits for its value, no
argument is the name of a command. -/
def readProgram (p : Progress) : List String → Except Stop Invocation
  | [] => .error .misuse
  | argument :: rest =>
    match if p.isWaiting then none else Verb.ofName? argument with
    | some verb => readInvocation p verb rest
    | none =>
      if !p.isWaiting && argument = helpName then .error (readHelp rest)
      else if shape argument = .twoDashes then .error .misuse
      else do readProgram (← readArgument .program p argument) rest

def read (arguments : List String) : Except Stop Invocation := readProgram {} arguments

end Multihead.CommandLine
