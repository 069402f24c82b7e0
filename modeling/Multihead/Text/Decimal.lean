/-!
# Decimals

Numbers as a user writes them: digits, with any zeros before them, after a plus sign or none; and
the form of real numbers, with a point and a power of ten.
-/

namespace Multihead.Text

def decimal? (text : List Char) : Option Nat :=
  let digits := match text with
    | '+' :: digits => digits
    | digits => digits
  if digits.isEmpty || !digits.all Char.isDigit then none else some (Nat.ofDigitChars 10 digits 0)

/-- Whether a text is the power of ten of a real number, or empty. -/
def isPowerOfTen : List Char → Bool
  | [] => true
  | e :: power =>
    let digits := match power with
      | '+' :: digits | '-' :: digits => digits
      | digits => digits
    (e = 'e' || e = 'E') && !digits.isEmpty && digits.all Char.isDigit

/-- Whether a text is a real number without a sign: digits before a point, after it or both, and
perhaps a power of ten, or a word for what is infinite or no number. -/
def isUnsignedReal (text : List Char) : Bool :=
  let (whole, rest) := text.span Char.isDigit
  let (places, rest) := match rest with
    | '.' :: rest => rest.span Char.isDigit
    | rest => ([], rest)
  !(whole.isEmpty && places.isEmpty) && isPowerOfTen rest ||
    ["inf", "infinity", "nan"].contains (String.ofList (text.map Char.toLower))

end Multihead.Text
