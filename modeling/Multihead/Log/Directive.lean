import Multihead.Log.Record
import Multihead.Text.Alphanumeric
import Multihead.Text.Blank
import Multihead.Text.Decimal
import Multihead.Text.Pattern

/-!
# Filter directives

A directive is one rule of a filter: it says how talkative some records may be. It names them by the
beginning of their target, by a field that they have, by both or by neither.

    directive = level | target | [target] [scope] ["=" [level]]
    scope     = "[" [span] ["{" field ["=" value] "}"] "]"

Where no level is given, everything is wanted. A directive that names a span or asks for the value
of a field is about spans. It concerns no record, since no record is made within a span.
-/

namespace Multihead.Log

/-- How talkative records may be: up to the given level, or not at all. -/
abbrev Threshold := Option Level

namespace Threshold

def everything : Threshold := some .trace

/-- The thresholds in the order of the numbers that stand for them, from zero. -/
def byNumber : List Threshold :=
  [none, some .error, some .warn, some .info, some .debug, some .trace]

/-- The threshold that a word in lower case names. -/
def ofWord? : String → Option Threshold
  | "off" => some none
  | "error" => some (some .error)
  | "warn" => some (some .warn)
  | "info" => some (some .info)
  | "debug" => some (some .debug)
  | "trace" => some (some .trace)
  | _ => none

/-- The threshold that a text gives by number or by name, in either case. -/
def read? (text : List Char) : Option Threshold :=
  ((Text.decimal? text).bind (byNumber[·]?)).or (ofWord? (String.ofList (text.map Char.toLower)))

/-- The threshold behind an equals sign, which may be left out. -/
def readBehindEquals? (text : List Char) : Option Threshold :=
  if text.isEmpty then some everything else read? text

def admits (threshold : Threshold) (level : Level) : Bool :=
  threshold.any (level.rank ≤ ·.rank)

end Threshold

/-- One rule of a filter. -/
inductive Directive
  /-- How talkative the records may be whose target has the given beginning and that have the given
  field. What is not given is not asked for. -/
  | records (beginning field : Option String) (threshold : Threshold)
  | spans
deriving DecidableEq, Repr

/-- What a directive has between brackets. -/
inductive Scope
  /-- Nothing, and no brackets either. -/
  | everywhere
  | field (name : String)
  /-- The name of a span or the value of a field. -/
  | spans
deriving DecidableEq, Repr

namespace Scope

/-- Whether a text is right as the value of a field: a truth value, a number or a regular
expression. A number is an expression as well unless it begins with a plus sign. -/
def isValue : List Char → Bool
  | '+' :: number => Text.isUnsignedReal number
  | text => Text.isPattern text

/-- Read what stands between braces. The value ends at the next equals sign. -/
def readField (text : List Char) : Option Scope :=
  match text.span (· ≠ '=') with
  | (name, []) => some (.field (String.ofList name))
  | (_, _ :: value) => if isValue (value.takeWhile (· ≠ '=')) then some .spans else none

/-- The directive about what the scope names. -/
def directive (scope : Scope) (beginning : Option String) (threshold : Threshold) : Directive :=
  match scope with
  | .everywhere => .records beginning none threshold
  | .field name => .records beginning (some name) threshold
  | .spans => .spans

end Scope

namespace Directive

/-- A place of a directive: the character by which the grammar judges it, and the one that stands
there in the text as it was written. The grammar overlooks the blanks before a directive, but counts
its places from the beginning of the text, so that after blanks the two are not the same. -/
abbrev Place := Char × Char

/-- The places of a directive. -/
def places (text : List Char) : List Place := (Text.trimBlank text).zip text

/-- What is written at the given places. -/
def written (places : List Place) : List Char := places.map Prod.snd

/-- The places before the first one with a character from the given text, and those from it on. -/
def upTo (ends : String) (places : List Place) : List Place × List Place :=
  places.span (!ends.contains ·.1)

/-- Read what stands between brackets, if anything does, and return the places behind it. The name
of a span may be empty, unless a field follows it: then an empty name is none. -/
def readScope (rest : List Place) : Option (Scope × List Place) :=
  match rest with
  | ('[', _) :: rest =>
    match upTo "]\x7b" rest with
    | (_, []) => none
    | (_, (']', _) :: rest) => some (.spans, rest)
    | (span, _ :: rest) =>
      match upTo "\x7d" rest with
      | (field@(_ :: _), _ :: (']', _) :: rest) =>
        (Scope.readField (written field)).map fun scope =>
          (if span.isEmpty then scope else .spans, rest)
      | _ => none
  | _ => some (.everywhere, rest)

/-- Whether a directive may begin with `c`. -/
def mayBegin (c : Char) : Bool :=
  c = '[' || c = '-' || c = ':' || c = '_' || Text.isAlphanumeric c

/-- Read a directive. One without an equals sign and brackets is a level if it names one, else a
target, with the blanks around it. -/
def parse (text : List Char) : Option Directive := do
  let places := places text
  let (first, _) ← places.head?
  guard (mayBegin first)
  match upTo "=[" places with
  | (_, []) =>
    match Threshold.read? text with
    | some threshold => some (.records none none threshold)
    | none => some (.records (some (String.ofList text)) none .everything)
  | (target, rest) =>
    let beginning := if target.isEmpty then none else some (String.ofList (written target))
    let (scope, rest) ← readScope rest
    match rest with
    | [] => some (scope.directive beginning .everything)
    | ('=', _) :: rest =>
      (Threshold.readBehindEquals? (text.drop (places.length - rest.length))).map
        (scope.directive beginning)
    | _ => none

def covers (record : Record) : Directive → Bool
  | .records beginning field _ =>
    beginning.all (·.toList.isPrefixOf record.origin.target.toList) &&
      field.all record.fieldNames.contains
  | .spans => false

/-- How much of a target its beginning gives. -/
def extent (beginning : Option String) : Nat := beginning.elim 0 (·.utf8ByteSize + 1)

/-- Whether the second directive decides, where both speak of a record and it was written after the
first one. Of two directives the one with the longer target decides; of two with one target, the one
with a field; and of two with fields, the one whose field comes later in the alphabet. -/
def yieldsTo : Directive → Directive → Bool
  | .records beginning field _, .records beginning' field' _ =>
    extent beginning < extent beginning' ||
      extent beginning = extent beginning' && field.all fun name => field'.any (name ≤ ·)
  | d, _ => d = .spans

end Directive

end Multihead.Log
