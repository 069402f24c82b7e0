import Multihead.Log.Record
import Multihead.SortedSet
import Multihead.Text.Quoted

/-!
# The written form of a selection

A selection is written as positions counted from one, in decimal and separated by commas or spaces,
or as the word `all`. Reading knows nothing of how many monitors there are: a written `0` is read as
position `-1`. A run of digits is judged only when it ends, so a character that may not stand in a
selection is reported before the run that it touches.
-/

namespace Multihead

inductive SelectionText
  | all
  /-- Positions counted from zero; `-1` stands for a written `0`. -/
  | positions (set : SortedSet Int)
deriving DecidableEq, Repr

namespace SelectionText

/-- Why a text is no selection text. Offsets count the bytes of the text in UTF-8. -/
inductive Error
  | unexpectedCharacter (offset : Nat) (found : Char)
  | indexTooLarge (offset : Nat) (token : String)
deriving DecidableEq, Repr

def Error.message : Error → String
  | .unexpectedCharacter offset found =>
    "unexpected character " ++ Text.quoteChar found ++ " at offset " ++ toString offset
  | .indexTooLarge offset token =>
    "monitor index " ++ token ++ " at offset " ++ toString offset ++ " is too large"

def allWord : String := "all"

/-- The largest number that may be written. -/
def maxIndex : Nat := 2147483647

/-- Whether a character may stand between two numbers. -/
def isSeparator (c : Char) : Bool := c = ',' || c = ' '

/-- End the run of digits `run`, read in reverse and ending before the byte `offset`: add its
position to those found. -/
def closeRun (offset : Nat) (run : List Char) (found : SortedSet Int) :
    Except Error (SortedSet Int) :=
  if run.isEmpty then .ok found
  else
    let digits := run.reverse
    let value := Nat.ofDigitChars 10 digits 0
    if value ≤ maxIndex then .ok (found.insert (value - 1))
    else .error (.indexTooLarge (offset - run.length) (String.ofList digits))

/-- Read from the byte `offset` on, where `run` holds the digits just before it in reverse. -/
def scan : Nat → List Char → SortedSet Int → List Char → Except Error (SortedSet Int)
  | offset, run, found, [] => closeRun offset run found
  | offset, run, found, c :: rest =>
    if c.isDigit then scan (offset + 1) (c :: run) found rest
    else if isSeparator c then do
      scan (offset + 1) [] (← closeRun offset run found) rest
    else .error (.unexpectedCharacter offset c)

def parse (text : String) : Except Error SelectionText :=
  if text = allWord then .ok .all
  else (scan 0 [] ∅ text.toList).map .positions

/-- The positions, unless every monitor is meant. -/
def positions? : SelectionText → Option (SortedSet Int)
  | .all => none
  | .positions set => some set

/-- Write positions counted from zero: ascending, counted from one, separated by commas. -/
def render : SelectionText → String
  | .all => allWord
  | .positions set => String.intercalate "," (set.toList.map fun i => toString (i + 1))

/-- Write a set of positions. A position whose number is too large to be read back is left out,
with a warning. -/
def ofPositions (set : SortedSet Nat) : Logged String where
  value := String.intercalate "," ((set.toList.filter (· < maxIndex)).map fun p => toString (p + 1))
  records :=
    let dropped := set.toList.filter (maxIndex ≤ ·)
    if dropped.isEmpty then []
    else [⟨.warn, .selectionText, "Monitor positions too large to persist",
      [("dropped", .ofNumbers (dropped.map Int.ofNat))]⟩]

end SelectionText

end Multihead
