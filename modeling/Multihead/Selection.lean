import Multihead.ArrangementError
import Multihead.SelectionText

/-!
# Selections

A selection is a set of positions sized for a number of monitors; none of its positions lies beyond
them. A request that names another position is refused and changes nothing.
-/

namespace Multihead

/-- The positions that were selected among `count` monitors. -/
structure Selection (count : Nat) where
  positions : SortedSet Nat
  inRange : ∀ position ∈ positions, position < count

/-- What became of the positions of a written selection. -/
structure RestoreReport where
  applied : SortedSet Nat
  /-- The positions that name no monitor, ascending. -/
  rejected : List Int
deriving DecidableEq, Repr

/-- Whether every position named a monitor. -/
def RestoreReport.isClean (r : RestoreReport) : Bool := r.rejected.isEmpty

namespace Selection

variable {count : Nat}

instance : DecidableEq (Selection count) := fun a b =>
  decidable_of_iff (a.positions = b.positions)
    ⟨fun h => by cases a; cases b; simp_all, fun h => h ▸ rfl⟩

@[ext] theorem ext {s t : Selection count} (h : s.positions = t.positions) : s = t := by
  cases s; cases t; simp_all

def unselected (count : Nat) : Selection count := ⟨∅, by simp⟩

instance : Inhabited (Selection count) := ⟨unselected count⟩

/-- The number of monitors that the selection is sized for. -/
def monitorCount (_ : Selection count) : Nat := count

def add (s : Selection count) (position : Nat) (h : position < count) : Selection count where
  positions := s.positions.insert position
  inRange p hp := by
    rcases SortedSet.mem_insert.1 hp with rfl | hp
    · exact h
    · exact s.inRange p hp

def remove (s : Selection count) (position : Nat) : Selection count where
  positions := s.positions.erase position
  inRange p hp := s.inRange p (SortedSet.mem_erase.1 hp).1

def set (s : Selection count) (position : Nat) (selected : Bool) :
    Except ArrangementError (Selection count) :=
  if h : position < count then .ok (if selected then s.add position h else s.remove position)
  else .error (.outOfRange position count)

def contains (s : Selection count) (position : Nat) : Except ArrangementError Bool :=
  if position < count then .ok (position ∈ s.positions)
  else .error (.outOfRange position count)

/-- Flip a position, and say whether it is selected now. -/
def toggle (s : Selection count) (position : Nat) :
    Except ArrangementError (Bool × Selection count) := do
  let selected := !(← s.contains position)
  return (selected, ← s.set position selected)

/-- Select exactly the given positions. If any is out of range, the largest is reported. -/
def ofPositions (count : Nat) (positions : SortedSet Nat) :
    Except ArrangementError (Selection count) :=
  if h : ∀ position ∈ positions.toList, position < count then .ok ⟨positions, h⟩
  else .error (.outOfRange (positions.last?.getD 0) count)

/-- The warning about positions that name no monitor, given as they were written. -/
def ignored (count : Nat) (rejected : List Int) : Log.Record :=
  ⟨.warn, .selection, "Ignoring configured monitors that do not exist",
    [("rejected", .ofNumbers (rejected.map (· + 1))), ("monitors", .number count)]⟩

/-- Select exactly those of the written positions that name a monitor, and report the others. -/
def restore (count : Nat) (written : SortedSet Int) : Logged (RestoreReport × Selection count) :=
  let names (i : Int) : Bool := 0 ≤ i && i < count
  let applied : SortedSet Nat := .ofList ((written.toList.filter names).map Int.toNat)
  let rejected := written.toList.filter (!names ·)
  { value := (⟨applied, rejected⟩, ⟨applied, by
      intro p hp
      simp only [applied, SortedSet.mem_ofList, List.mem_map, List.mem_filter] at hp
      grind⟩)
    records := if rejected.isEmpty then [] else [ignored count rejected] }

def text (s : Selection count) : Logged String := SelectionText.ofPositions s.positions

end Selection

end Multihead
