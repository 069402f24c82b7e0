import Multihead.Json.Reader

/-!
# Numbers

The grammar of numbers, and their meaning where an integer is expected. A number with a fraction or
an exponent is no integer, and neither is `-0`. A number that a double cannot hold breaks the
grammar, whatever type is expected; `Number.isTooLarge` says when that is.
-/

namespace Multihead.Json

structure Number where
  negative : Bool
  whole : List Char
  /-- The digits after the point, none if there is no point. -/
  fraction : List Char
  /-- Whether the exponent is negative, and its digits. -/
  exponent : Option (Bool × List Char)
deriving DecidableEq, Repr

namespace Number

/-- Take digits, at least one. Where the text ends instead, the fault is `atEnd`. -/
def takeDigits (atEnd : Fault) (text : List Char) : Except Fault (List Char × List Char) :=
  match text with
  | [] => .error atEnd
  | c :: _ =>
    if c.isDigit then .ok (text.takeWhile Char.isDigit, text.dropWhile Char.isDigit)
    else .error .malformed

/-- Take the digits before the point. Only a lone zero starts with a zero. -/
def takeWhole (atEnd : Fault) (text : List Char) : Except Fault (List Char × List Char) := do
  let (digits, rest) ← takeDigits atEnd text
  if digits.head? = some '0' && digits.length ≠ 1 then .error .malformed else .ok (digits, rest)

/-- Take a fraction, if there is a point. -/
def takeFraction (atEnd : Fault) : List Char → Except Fault (List Char × List Char)
  | '.' :: text => takeDigits atEnd text
  | text => .ok ([], text)

/-- Take an exponent, if there is its letter. -/
def takeExponent (atEnd : Fault) :
    List Char → Except Fault (Option (Bool × List Char) × List Char)
  | [] => .ok (none, [])
  | c :: text =>
    if c = 'e' || c = 'E' then do
      let (negative, text) := match text with
        | '+' :: text => (false, text)
        | '-' :: text => (true, text)
        | text => (false, text)
      let (digits, rest) ← takeDigits atEnd text
      .ok (some (negative, digits), rest)
    else .ok (none, c :: text)

/-- Take a number. Where the text ends before a digit that has to stand, the fault is `atEnd`. -/
def take (atEnd : Fault) (text : List Char) : Except Fault (Number × List Char) := do
  let (negative, text) := match text with
    | '-' :: text => (true, text)
    | text => (false, text)
  let (whole, text) ← takeWhole atEnd text
  let (fraction, text) ← takeFraction atEnd text
  let (exponent, text) ← takeExponent atEnd text
  .ok (⟨negative, whole, fraction, exponent⟩, text)

/-! ## Size

The digits before the point, and then those after it, are collected in a word of 64 bits for as long
as they fit; the others only count for the power of ten. The size of the number is the product of
the two doubles nearest to the word and to the power. -/

def maxSignificand : Nat := UInt64.size - 1

/-- Collect digits onto a significand for as long as it fits, and keep the others. -/
def collect : Nat → List Char → Nat × List Char
  | significand, [] => (significand, [])
  | significand, c :: digits =>
    let next := 10 * significand + (c.toNat - '0'.toNat)
    if next ≤ maxSignificand then collect next digits else (significand, c :: digits)

/-- The significand and the power of ten that the digits before and after the point make. -/
def scaled (n : Number) : Nat × Int :=
  let (significand, unusedWhole) := collect 0 n.whole
  let (significand, unusedFraction) := collect significand n.fraction
  (significand, unusedWhole.length + unusedFraction.length - n.fraction.length)

/-- The whole number nearest to `n` that has at most 53 significant bits; a tie goes to the even
one. -/
def nearestDouble (n : Nat) : Nat :=
  let unit := Nat.pow 2 (n.log2 - 52)
  let quotient := n / unit
  let twice := 2 * (n % unit)
  if twice < unit || (twice = unit && quotient % 2 = 0) then quotient * unit
  else (quotient + 1) * unit

/-- The smallest number that rounds to no double. -/
def doubleLimit : Nat := Nat.pow 2 1024 - Nat.pow 2 970

/-- The largest power of ten that is a double. -/
def maxPower : Nat := 308

/-- Whether `significand · 10 ^ power` is beyond every double. -/
def exceedsDouble (significand : Nat) (power : Int) : Bool :=
  significand ≠ 0 && 0 ≤ power &&
    ((maxPower : Int) < power ||
      doubleLimit ≤ nearestDouble significand * nearestDouble (Nat.pow 10 power.toNat))

def isTooLarge (n : Number) : Bool :=
  let (significand, power) := n.scaled
  match n.exponent with
  | none => exceedsDouble significand power
  | some (negative, digits) =>
    let (size, unused) := collect 0 digits
    if unused.isEmpty then
      exceedsDouble significand (if negative then power - size else power + size)
    else significand ≠ 0 && !negative

/-- The integer that the number stands for, if it is written as one. -/
def integer? (n : Number) : Option Int :=
  if n.fraction.isEmpty && n.exponent.isNone && !(n.negative && n.whole = ['0']) then
    let size := Nat.ofDigitChars 10 n.whole 0
    some (if n.negative then -size else size)
  else none

end Number

/-- Whether a value that starts with `c` is a number. -/
def startsNumber (c : Char) : Bool := c = '-' || c.isDigit

/-- Take a number that a double can hold. -/
def number (text : List Char) : Except Fault (Number × List Char) := do
  let (n, rest) ← Number.take .truncated text
  if n.isTooLarge then .error .malformed else .ok (n, rest)

end Multihead.Json
