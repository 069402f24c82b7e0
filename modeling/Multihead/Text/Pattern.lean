import Multihead.Text.Alphanumeric
import Multihead.Text.Hexadecimal

/-!
# Regular expressions

Whether a text is right as a regular expression. Reading goes through three layers, each of which
joins what belongs together and leaves the rest to the next one: escapes become atoms
(`Pattern.signs`), sets in brackets become atoms (`Pattern.joinSets`), and what remains is a matter
of groups, alternatives and repetitions (`Pattern.isSequence`).

Expressions are about all characters unless they are limited to ASCII by a flag. The shorthands for
digits, letters and blanks, the edges of words and the folding of case are known for ASCII alone, so
without that flag they are wrong. An expression stands in braces and so holds no closing one: what
needs one, such as a counted repetition, is never right.
-/

namespace Multihead.Text

namespace Pattern

/-- How the characters of an expression are meant. -/
structure Mode where
  /-- All characters are meant, not only those of ASCII. -/
  wide : Bool := true
  folded : Bool := false
deriving DecidableEq, Repr

/-- A part of an expression that matches by itself. -/
inductive Atom
  | literal (c : Char)
  /-- The point, which stands for any character. -/
  | any
  /-- A letter after a backslash that stands for the digits, the letters or the blanks. -/
  | shorthand
  /-- The beginning or the end of the text. -/
  | position
  /-- The beginning or the end of a word, or a place that is neither. -/
  | edge
  /-- A set in brackets, and whether it is right for all characters and for those of ASCII. -/
  | set (wide narrow : Bool)
deriving DecidableEq, Repr

/-- Whether the atom is right where characters are meant in the given way. -/
def Atom.fits (mode : Mode) : Atom → Bool
  | .literal c => if mode.wide then !mode.folded else c.toNat < 128
  | .any => mode.wide
  | .shorthand => !mode.wide
  | .position => true
  | .edge => !mode.wide
  | .set wide narrow => if mode.wide then wide && !mode.folded else narrow

/-- A character that the grammar has still to judge, or an atom. -/
inductive Sign
  | mark (c : Char)
  | atom (a : Atom)
deriving DecidableEq, Repr

/-- The controls that have an escape of one letter. -/
def control? : Char → Option Char
  | 'a' => some '\x07'
  | 't' => some '\t'
  | 'n' => some '\n'
  | 'v' => some '\x0b'
  | 'f' => some '\x0c'
  | 'r' => some '\r'
  | _ => none

/-- The atom that stands for one character after a backslash. Letters and digits have to be known,
other characters of ASCII stand for themselves. -/
def escape? (c : Char) : Option Atom :=
  if "bB<>".contains c then some .edge
  else if "Az".contains c then some .position
  else if "dsw".contains c then some .shorthand
  else if c.isAlphanum || 128 ≤ c.toNat then (control? c).map .literal
  else some (.literal c)

/-- The character whose code point has the given hexadecimal digits. -/
def codePoint? (digits : List Char) : Option Atom := do
  let digits ← digits.mapM hexDigit?
  let n := digits.foldl (16 * · + ·) 0
  if n.isValidChar then some (.literal (Char.ofNat n)) else none

/-- An expression with its escapes as atoms. -/
def signs : List Char → Option (List Sign)
  | [] => some []
  | '\\' :: 'x' :: a :: b :: rest => do
    return .atom (← codePoint? [a, b]) :: (← signs rest)
  | '\\' :: 'u' :: a :: b :: c :: d :: rest => do
    return .atom (← codePoint? [a, b, c, d]) :: (← signs rest)
  | '\\' :: 'U' :: a :: b :: c :: d :: e :: f :: g :: h :: rest => do
    return .atom (← codePoint? [a, b, c, d, e, f, g, h]) :: (← signs rest)
  | ['\\'] => none
  | '\\' :: c :: rest => do return .atom (← escape? c) :: (← signs rest)
  | c :: rest => do return .mark c :: (← signs rest)

/-- The character for which a sign stands within a set, if it stands for one. -/
def Sign.literal? : Sign → Option Char
  | .mark c => some c
  | .atom (.literal c) => some c
  | .atom _ => none

/-- How far the reading of a set has come. -/
inductive Stage
  /-- Behind the opening bracket. -/
  | opened
  /-- Behind the circumflex that negates the set. -/
  | negated
  /-- Behind hyphens that stand first and so for themselves. -/
  | hyphens
  /-- Before an item. -/
  | between
  /-- Behind an item, with its character if it is one. -/
  | item (low : Option Char)
  /-- Behind an item and a hyphen. -/
  | range (low : Option Char)
  /-- Behind a character that is an operator if it is doubled. -/
  | half (c : Char)
deriving DecidableEq, Repr

/-- What a sign does to the reading of a set. -/
inductive Move
  | on (stage : Stage)
  | inward
  | outward
deriving DecidableEq, Repr

/-- The move before an item. -/
def Move.ofItem : Sign → Option Move
  | .mark '[' => some .inward
  | .mark ']' => some .outward
  | .mark c => some (.on (if "&~-".contains c then .half c else .item (some c)))
  | .atom (.literal c) => some (.on (.item (some c)))
  | .atom .shorthand => some (.on (.item none))
  | .atom _ => none

/-- The move behind an item. -/
def Move.behindItem (low : Option Char) : Sign → Option Move
  | .mark '-' => some (.on (.range low))
  | sign => ofItem sign

/-- The move at a sign. A bracket closes the set unless it stands first; a hyphen that stands first
or last stands for itself, and two of them are an operator. -/
def Stage.move : Stage → Sign → Option Move
  | .opened, .mark '^' => some (.on .negated)
  | .opened, .mark ']' | .negated, .mark ']' => some (.on (.item (some ']')))
  | .opened, .mark '-' | .negated, .mark '-' | .hyphens, .mark '-' => some (.on .hyphens)
  | .item low, sign => Move.behindItem low sign
  | .half c, sign =>
    if sign = .mark c then some (.on .between) else Move.behindItem (some c) sign
  | .range _, .mark ']' => some .outward
  | .range _, .mark '-' => some (.on .between)
  | .range low, sign => do
    if (← low) ≤ (← sign.literal?) then some (.on .between) else none
  | _, sign => Move.ofItem sign

structure OpenSet where
  around : Nat := 0
  stage : Stage := .opened
  /-- All of it so far is right for all characters. -/
  wide : Bool := true
  /-- All of it so far is right for the characters of ASCII. A negated set holds others. -/
  narrow : Bool := true
deriving DecidableEq, Repr

/-- The set after a sign that leads to the given stage. -/
def OpenSet.take (set : OpenSet) (sign : Sign) (stage : Stage) : OpenSet :=
  { set with
    stage
    wide := set.wide && sign ≠ .atom .shorthand
    narrow := set.narrow && stage ≠ .negated && sign.literal?.all (·.toNat < 128) }

/-- An expression with its sets as atoms, from within the given set or from outside of any. -/
def joinSets : Option OpenSet → List Sign → Option (List Sign)
  | none, [] => some []
  | some _, [] => none
  | none, sign :: rest =>
    if sign = .mark '[' then joinSets (some {}) rest else (joinSets none rest).map (sign :: ·)
  | some set, sign :: rest =>
    match set.stage.move sign with
    | none => none
    | some (.on stage) => joinSets (some (set.take sign stage)) rest
    | some .inward => joinSets (some { set with around := set.around + 1, stage := .opened }) rest
    | some .outward =>
      match set.around with
      | 0 => (joinSets none rest).map (.atom (.set set.wide set.narrow) :: ·)
      | around + 1 => joinSets (some { set with around, stage := .between }) rest

/-- The flags that a group may begin with. -/
def flags : List Char := ['i', 'm', 's', 'u', 'x', 'R', 'U']

/-- The mode after a flag is set or cleared. -/
def Mode.put (mode : Mode) (flag : Char) (value : Bool) : Mode :=
  match flag with
  | 'i' => { mode with folded := value }
  | 'u' => { mode with wide := value }
  | _ => mode

/-- The atom that a character is where the grammar gives it no other meaning. -/
def Atom.ofMark (c : Char) : Atom :=
  if c = '.' then .any else if c = '^' || c = '$' then .position else .literal c

/-- Where reading stands outside of sets. -/
inductive Place
  /-- In a sequence. A repetition may follow where there is something to repeat. -/
  | sequence (repeatable : Bool)
  /-- Behind the question mark of a group, with the flags so far, the last one first, and the mode
  that they make. -/
  | header (seen : List Char) (mode : Mode)
  /-- Behind the letter that may stand before the name of a group. -/
  | naming
  | name (first : Bool)
deriving DecidableEq, Repr

/-- Whether a character may stand in the name of a group. -/
def mayName (first : Bool) (c : Char) : Bool :=
  c = '_' || isAlphanumeric c && !(first && c.isDigit) || !first && c = '.'

/-- Whether an expression without escapes and sets is right from the given place on. The first
argument has the mode around each open group; flags in parentheses of their own hold to the end of
the group around them. -/
def isSequence (around : List Mode) (mode : Mode) : Place → List Sign → Bool
  | .sequence _, [] => around.isEmpty
  | .sequence _, .mark '(' :: .mark '?' :: rest =>
    isSequence (mode :: around) mode (.header [] mode) rest
  | .sequence repeatable, .mark c :: rest =>
    match c, around with
    | '(', _ => isSequence (mode :: around) mode (.sequence false) rest
    | ')', [] => false
    | ')', outer :: around => isSequence around outer (.sequence true) rest
    | '|', _ => isSequence around mode (.sequence false) rest
    | '?', _ | '*', _ | '+', _ => repeatable && isSequence around mode (.sequence true) rest
    | '\x7b', _ => false
    | _, _ => (Atom.ofMark c).fits mode && isSequence around mode (.sequence true) rest
  | .sequence _, .atom a :: rest => a.fits mode && isSequence around mode (.sequence true) rest
  | .header [] _, .mark '<' :: rest => isSequence around mode (.name true) rest
  | .header [] _, .mark 'P' :: rest => isSequence around mode .naming rest
  | .header ('-' :: _) _, .mark ':' :: _ | .header ('-' :: _) _, .mark ')' :: _ => false
  | .header _ mode, .mark ':' :: rest => isSequence around mode (.sequence false) rest
  | .header seen mode, .mark ')' :: rest =>
    !seen.isEmpty && isSequence around.tail mode (.sequence false) rest
  | .header seen mode, .mark c :: rest =>
    (c = '-' || flags.contains c) && !seen.contains c &&
      isSequence around mode (.header (c :: seen) (mode.put c !(seen.contains '-'))) rest
  | .naming, .mark '<' :: rest => isSequence around mode (.name true) rest
  | .name false, .mark '>' :: rest => isSequence around mode (.sequence false) rest
  | .name first, .mark c :: rest => mayName first c && isSequence around mode (.name false) rest
  | _, _ => false

end Pattern

/-- Whether a text is right as a regular expression. -/
def isPattern (text : List Char) : Bool :=
  match (Pattern.signs text).bind (Pattern.joinSets none) with
  | some signs => Pattern.isSequence [] {} (.sequence false) signs
  | none => false

end Multihead.Text
