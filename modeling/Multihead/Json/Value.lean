import Multihead.Json.Text

/-!
# JSON values

A value to be written, and its two written forms: the compact one has no space between tokens, the
indented one gives every element and every member a line of its own.
-/

namespace Multihead.Json

/-- A JSON value. The members of an object keep their order. -/
inductive Value
  | null
  | bool (b : Bool)
  | integer (n : Int)
  | text (s : String)
  | array (elements : List Value)
  | object (members : List (String × Value))
deriving Repr, Inhabited

namespace Value

def integerText (n : Int) : List Char := (toString n).toList

def boolText (b : Bool) : List Char := (if b then "true" else "false").toList

/-- Several written items, with a comma between any two. -/
def separated (separator : List Char) : List (List Char) → List Char
  | [] => []
  | [item] => item
  | item :: next :: items => item ++ separator ++ separated separator (next :: items)

mutual

def compact : Value → List Char
  | null => "null".toList
  | bool b => boolText b
  | integer n => integerText n
  | text s => writeText s
  | array elements => '[' :: separated [','] (compactElements elements) ++ [']']
  | object members => '\x7b' :: separated [','] (compactMembers members) ++ ['\x7d']

def compactElements : List Value → List (List Char)
  | [] => []
  | v :: elements => compact v :: compactElements elements

def compactMembers : List (String × Value) → List (List Char)
  | [] => []
  | (name, v) :: members => (writeText name ++ ':' :: compact v) :: compactMembers members

end

/-- The beginning of a line at a depth of nesting. -/
def lineStart (depth : Nat) : List Char := '\n' :: List.replicate (2 * depth) ' '

/-- Written items on lines of their own, one level deeper than `depth`, between two brackets. -/
def block (depth : Nat) (opening closing : Char) (items : List (List Char)) : List Char :=
  if items.isEmpty then [opening, closing]
  else opening :: lineStart (depth + 1) ++ separated (',' :: lineStart (depth + 1)) items ++
    lineStart depth ++ [closing]

mutual

/-- The indented form of a value that stands at a depth of nesting. -/
def indented (depth : Nat) : Value → List Char
  | null => "null".toList
  | bool b => boolText b
  | integer n => integerText n
  | text s => writeText s
  | array elements => block depth '[' ']' (indentedElements (depth + 1) elements)
  | object members => block depth '\x7b' '\x7d' (indentedMembers (depth + 1) members)

def indentedElements (depth : Nat) : List Value → List (List Char)
  | [] => []
  | v :: elements => indented depth v :: indentedElements depth elements

def indentedMembers (depth : Nat) : List (String × Value) → List (List Char)
  | [] => []
  | (name, v) :: members =>
    (writeText name ++ ':' :: ' ' :: indented depth v) :: indentedMembers depth members

end

def compactText (v : Value) : String := String.ofList v.compact

/-- The indented form as a text, without a line end after it. -/
def indentedText (v : Value) : String := String.ofList (v.indented 0)

def ofText? : Option String → Value
  | some s => text s
  | none => null

end Value

end Multihead.Json
