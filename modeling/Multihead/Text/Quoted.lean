import Multihead.Text.GraphemeExtend
import Multihead.Text.Printable

/-!
# Quoted characters and texts

A quoted character or text stands between two quotation marks and shows every character: the mark
itself and the backslash are written after a backslash, five controls have an escape of one letter,
and what cannot be seen on its own is given by its code point, as in `\u{301}`.
-/

namespace Multihead.Text

/-- The escape of one letter for some controls. -/
def shortEscape : Char → Option Char
  | '\x00' => some '0'
  | '\t' => some 't'
  | '\r' => some 'r'
  | '\n' => some 'n'
  | '\\' => some '\\'
  | _ => none

/-- A code point in lower-case hexadecimal, in braces. -/
def codePointEscape (c : Char) : List Char :=
  ['\\', 'u', '\x7b'] ++ Nat.toDigits 16 c.toNat ++ ['\x7d']

/-- How `c` is written between two marks. -/
def escapeWithin (mark c : Char) : List Char :=
  match shortEscape c with
  | some letter => ['\\', letter]
  | none =>
    if c = mark then ['\\', c]
    else if extendsGrapheme c || !isPrintable c then codePointEscape c
    else [c]

def quoteChar (c : Char) : String := String.ofList (['\''] ++ escapeWithin '\'' c ++ ['\''])

def quote (text : String) : String :=
  String.ofList (['"'] ++ text.toList.flatMap (escapeWithin '"') ++ ['"'])

end Multihead.Text
