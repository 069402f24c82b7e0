/-!
# Errors of the arrangement engine

What can be wrong with a request for monitors: there are none at all, or a position names none.
-/

namespace Multihead

inductive ArrangementError
  | emptyTopology
  | outOfRange (position count : Nat)
deriving DecidableEq, Repr

def ArrangementError.message : ArrangementError → String
  | .emptyTopology => "No displays reported"
  | .outOfRange position count =>
    "Monitor position " ++ toString position ++ " is out of range (" ++ toString count ++
      " monitors)"

end Multihead
