import Multihead.Json.Reader
import Multihead.Text.Hexadecimal

/-!
# Texts

A text stands between quotation marks. A writer escapes the mark, the backslash and the controls
below the space, five of them by one letter and the others by their code point. A reader takes any
escape, and joins two escaped surrogates to the character that they make.
-/

namespace Multihead.Json

/-! ## Writing -/

/-- The letter that escapes a character after a backslash, where there is one. -/
def escapeLetter : Char → Option Char
  | '"' => some '"'
  | '\\' => some '\\'
  | '\x08' => some 'b'
  | '\x0c' => some 'f'
  | '\n' => some 'n'
  | '\r' => some 'r'
  | '\t' => some 't'
  | _ => none

/-- The first code point that may stand in a text as it is. -/
def firstPlain : Nat := 0x20

def escapeChar (c : Char) : List Char :=
  match escapeLetter c with
  | some letter => ['\\', letter]
  | none =>
    if c.toNat < firstPlain then
      ['\\', 'u', '0', '0', Nat.digitChar (c.toNat / 16), Nat.digitChar (c.toNat % 16)]
    else [c]

/-- The characters of a text as they are written between the marks. -/
def escapeText (text : List Char) : List Char := text.flatMap escapeChar

def writeText (text : String) : List Char := '"' :: escapeText text.toList ++ ['"']

/-! ## Reading -/

/-- The character that a letter after a backslash stands for. -/
def unescapeLetter : Char → Option Char
  | '"' => some '"'
  | '\\' => some '\\'
  | '/' => some '/'
  | 'b' => some '\x08'
  | 'f' => some '\x0c'
  | 'n' => some '\n'
  | 'r' => some '\r'
  | 't' => some '\t'
  | _ => none

def opensPair (unit : Nat) : Bool := 0xd800 ≤ unit && unit < 0xdc00

def closesPair (unit : Nat) : Bool := 0xdc00 ≤ unit && unit < 0xe000

/-- The character that a surrogate pair makes. -/
def pairedChar (opening closing : Nat) : Char :=
  Char.ofNat (0x10000 + (opening - 0xd800) * 0x400 + (closing - 0xdc00))

/-- Where a reader stands within a text. -/
inductive TextState
  /-- Between two characters. -/
  | plain
  /-- After a backslash. -/
  | escape
  /-- Within the four digits of a code unit: the opening unit before it, if there was one, how many
  digits are missing besides the next one, and the value of those before. -/
  | unit (opening : Option Nat) (missing value : Nat)
  /-- After an opening unit, before the backslash of the closing one. -/
  | pair (opening : Nat)
  /-- After that backslash, before its letter. -/
  | pairLetter (opening : Nat)
deriving DecidableEq, Repr

/-- Begin the digits of a code unit. They need four bytes, whatever stands in them. -/
def beginUnit (opening : Option Nat) (text : List Char) : Except Fault TextState :=
  if (String.ofList (text.take 4)).utf8ByteSize < 4 then .error .truncated
  else .ok (.unit opening 3 0)

/-- End a code unit: where to go on, and the character that is complete now. Where units are not
`joined`, they stand for nothing. -/
def endUnit (joined : Bool) : Option Nat → Nat → Except Fault (TextState × List Char)
  | none, unit =>
    if !joined then .ok (.plain, [])
    else if opensPair unit then .ok (.pair unit, [])
    else if closesPair unit then .error .malformed
    else .ok (.plain, [Char.ofNat unit])
  | some opening, unit =>
    if closesPair unit then .ok (.plain, [pairedChar opening unit]) else .error .malformed

/-- Read a text up to its closing mark, where `found` holds the characters before this one in
reverse. In a text that nobody asks for, code units are not `joined` to characters, and need not
make any. -/
def takeText (joined : Bool) : TextState → List Char → Reader String
  | _, _, [] => .error .truncated
  | .plain, found, c :: rest =>
    if c = '"' then .ok (String.ofList found.reverse, rest)
    else if c = '\\' then takeText joined .escape found rest
    else if c.toNat < firstPlain then .error .malformed
    else takeText joined .plain (c :: found) rest
  | .escape, found, c :: rest =>
    if c = 'u' then do takeText joined (← beginUnit none rest) found rest
    else match unescapeLetter c with
      | some d => takeText joined .plain (d :: found) rest
      | none => .error .malformed
  | .unit opening missing value, found, c :: rest =>
    match Text.hexDigit? c with
    | none => .error .malformed
    | some digit =>
      match missing with
      | missing + 1 => takeText joined (.unit opening missing (16 * value + digit)) found rest
      | 0 => do
        let (state, complete) ← endUnit joined opening (16 * value + digit)
        takeText joined state (complete ++ found) rest
  | .pair opening, found, c :: rest =>
    if c = '\\' then takeText joined (.pairLetter opening) found rest else .error .malformed
  | .pairLetter opening, found, c :: rest =>
    if c = 'u' then do takeText joined (← beginUnit (some opening) rest) found rest
    else .error .malformed

/-! ## Escaped letters -/

theorem unescapeLetter_escapeLetter {c letter : Char} (h : escapeLetter c = some letter) :
    letter ≠ 'u' ∧ unescapeLetter letter = some c := by
  unfold escapeLetter at h
  split at h <;> cases h <;> decide

theorem plain_of_escapeLetter_eq_none {c : Char} (h : escapeLetter c = none) :
    c ≠ '"' ∧ c ≠ '\\' := by
  constructor <;> rintro rfl <;> revert h <;> decide

end Multihead.Json
