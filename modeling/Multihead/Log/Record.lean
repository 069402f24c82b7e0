/-!
# Log records

An operation that has something to report returns its records beside its value, as a `Logged`
value; where they go, and whether they go anywhere, is decided by whoever runs it. Records keep the
order in which they were made (`records_bind`), and nothing in a value depends on them.
-/

namespace Multihead.Log

inductive Level
  | error
  | warn
  | info
  | debug
  | trace
deriving DecidableEq, Repr

/-- The place in the order from the most urgent to the most talkative, counted from one. -/
def Level.rank : Level → Nat
  | .error => 1
  | .warn => 2
  | .info => 3
  | .debug => 4
  | .trace => 5

def Level.name : Level → String
  | .error => "ERROR"
  | .warn => "WARN"
  | .info => "INFO"
  | .debug => "DEBUG"
  | .trace => "TRACE"

/-- The part of the program that a record speaks for. -/
inductive Origin
  | displaySource
  | settings
  | catalog
  | selectionText
  | selection
  | arrangement
  | session
  | edit
deriving DecidableEq, Repr

/-- The name by which a filter and a reader of the log know the part. -/
def Origin.target : Origin → String
  | .displaySource => "monspan_platform_core::source"
  | .settings => "monspan_common::config"
  | .catalog => "monspan_arrangement::catalog"
  | .selectionText => "monspan_arrangement::indices"
  | .selection => "monspan_arrangement::selection"
  | .arrangement => "monspan_arrangement::arrangement"
  | .session => "monspan::commands"
  | .edit => "monspan::commands::select"

inductive FieldValue
  | number (n : Int)
  | flag (b : Bool)
  | text (s : String)
deriving DecidableEq, Repr

def FieldValue.plain : FieldValue → String
  | .number n => toString n
  | .flag b => toString b
  | .text s => s

/-- One record: a message with named fields. -/
structure Record where
  level : Level
  origin : Origin
  message : String
  fields : List (String × FieldValue)
deriving DecidableEq, Repr

/-- The names by which a record's parts are known: the message is a field too. -/
def Record.fieldNames (r : Record) : List String := "message" :: r.fields.map Prod.fst

/-- The message followed by its fields. -/
def Record.summary (r : Record) : String :=
  r.fields.foldl (fun text field => text ++ " " ++ field.1 ++ "=" ++ field.2.plain) r.message

def FieldValue.ofNumbers (numbers : List Int) : FieldValue :=
  .text ("[" ++ String.intercalate ", " (numbers.map toString) ++ "]")

end Multihead.Log

namespace Multihead

/-- A value together with the records that were made on the way to it. -/
structure Logged (α : Type) where
  value : α
  records : List Log.Record

namespace Logged

variable {α β : Type}

instance : Monad Logged where
  pure a := ⟨a, []⟩
  bind x f := ⟨(f x.value).value, x.records ++ (f x.value).records⟩

def record (r : Log.Record) : Logged Unit := ⟨(), [r]⟩

@[simp] theorem value_pure (a : α) : (pure a : Logged α).value = a := rfl

@[simp] theorem records_pure (a : α) : (pure a : Logged α).records = [] := rfl

@[simp] theorem value_bind (x : Logged α) (f : α → Logged β) :
    (x >>= f).value = (f x.value).value := rfl

@[simp] theorem records_bind (x : Logged α) (f : α → Logged β) :
    (x >>= f).records = x.records ++ (f x.value).records := rfl

@[ext] theorem ext {x y : Logged α} (hv : x.value = y.value) (hr : x.records = y.records) :
    x = y := by
  cases x; cases y; simp_all

instance : LawfulMonad Logged :=
  LawfulMonad.mk' Logged (fun _ => ext rfl (List.append_nil _)) (fun _ _ => ext rfl rfl)
    (fun _ _ _ => ext rfl (List.append_assoc ..))

end Logged

end Multihead
