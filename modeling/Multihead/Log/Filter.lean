import Multihead.Log.Directive

/-!
# Level filters

A filter says which records are wanted. It is a list of directives with commas between them. Of the
directives that speak of a record one decides: the one that names it most closely, and of several
with the same target and field the last. A filter without directives wants errors only.
-/

namespace Multihead.Log

/-- A filter, as its directives in the order in which they were written. -/
abbrev Filter := List Directive

namespace Filter

def errors : Filter := [.records none none (some .error)]

def everything : Filter := [.records none none .everything]

def directiveTexts (text : String) : List (List Char) :=
  (text.toList.splitOn ',').filter (!·.isEmpty)

def ofDirectives (directives : List Directive) : Filter :=
  if directives.isEmpty then errors else directives

/-- Read a filter of which every directive has to be right. -/
def parse? (text : String) : Option Filter :=
  ((directiveTexts text).mapM Directive.parse).map ofDirectives

/-- Read a filter and drop the directives that are not right. -/
def parseLossy (text : String) : Filter :=
  ofDirectives ((directiveTexts text).filterMap Directive.parse)

def directiveFor (filter : Filter) (record : Record) : Option Directive :=
  (filter.filter (·.covers record)).foldl (fun
    | none, d => some d
    | some best, d => if best.yieldsTo d then some d else some best) none

def admits (filter : Filter) (record : Record) : Bool :=
  match filter.directiveFor record with
  | some (.records _ _ threshold) => threshold.admits record.level
  | _ => false

end Filter

end Multihead.Log
