/-!
# Reading JSON by an expected type

A reader takes a value of a known type from the start of a text and gives back the rest. What is
wrong is told by the first fault in reading order: the text ends too early, it breaks the grammar,
or it is well formed so far but does not have the expected type. A value of another type is still
read to its end if it is a scalar, so that a fault of its own comes first; a list or an object of
the wrong type is refused at its bracket.
-/

namespace Multihead.Json

/-- Why a text does not give a value. -/
inductive Fault
  /-- The text ends within a value. -/
  | truncated
  /-- The grammar does not allow what stands here. -/
  | malformed
  /-- A value of another type or shape was expected. -/
  | mismatched
deriving DecidableEq, Repr

def Fault.message : Fault → String
  | .truncated => "the text ends within a value"
  | .malformed => "the text is not JSON"
  | .mismatched => "a value does not have the expected type or shape"

/-- What is taken from the start of a text, and the rest of the text. -/
abbrev Reader (α : Type) := List Char → Except Fault (α × List Char)

/-- Whether a character may stand between any two tokens. -/
def isSpace (c : Char) : Bool := c = ' ' || c = '\n' || c = '\t' || c = '\r'

/-- The text from its next token on. -/
def skipSpace (text : List Char) : List Char := text.dropWhile isSpace

def word : List Char → Reader Unit
  | [], text => .ok ((), text)
  | _ :: _, [] => .error .truncated
  | expected :: letters, c :: text =>
    if c = expected then word letters text else .error .malformed

/-- Take the token `expected`, which is a single character. -/
def token (expected : Char) : Reader Unit := fun text =>
  match skipSpace text with
  | [] => .error .truncated
  | c :: rest => if c = expected then .ok ((), rest) else .error .malformed

/-- Read a text that holds one value and nothing else. -/
def parse {α : Type} (reader : Reader α) (text : String) : Except Fault α := do
  let (value, rest) ← reader text.toList
  if (skipSpace rest).isEmpty then .ok value else .error .malformed

theorem skipSpace_cons_of_not {c : Char} {text : List Char} (h : isSpace c = false) :
    skipSpace (c :: text) = c :: text := by simp [skipSpace, h]

theorem skipSpace_append {spaces : List Char} (h : ∀ c ∈ spaces, isSpace c) (text : List Char) :
    skipSpace (spaces ++ text) = skipSpace text := by
  induction spaces with
  | nil => rfl
  | cons c rest ih => simp_all [skipSpace]

theorem word_append (letters text : List Char) :
    word letters (letters ++ text) = .ok ((), text) := by
  induction letters with
  | nil => rfl
  | cons c letters ih => simp [word, ih]

end Multihead.Json
