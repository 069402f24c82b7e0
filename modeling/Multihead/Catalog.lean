import Multihead.ArrangementError
import Multihead.Display
import Multihead.Log.Record

/-!
# The monitor catalog

A catalog lists displays by their top-left corner: smallest `x` first, smallest `y` on a tie, and
displays with one corner in the order in which they were reported. A position is a place in this
list, counted from zero; saved selections refer to positions and not to the platform's indices.
-/

namespace Multihead

/-- The order of the catalog: the corner of `a` is not after the corner of `b`. -/
def Display.NotAfter (a b : Display) : Prop :=
  a.rect.x < b.rect.x ∨ a.rect.x = b.rect.x ∧ a.rect.y ≤ b.rect.y

instance (a b : Display) : Decidable (a.NotAfter b) := by
  unfold Display.NotAfter; infer_instance

theorem Display.notAfter_iff {a b : Display} : a.NotAfter b ↔
    a.rect.x.toInt < b.rect.x.toInt ∨
      a.rect.x.toInt = b.rect.x.toInt ∧ a.rect.y.toInt ≤ b.rect.y.toInt := by
  rw [Display.NotAfter, Int32.lt_iff_toInt_lt, Int32.le_iff_toInt_le, Int32.toInt_inj]

theorem Display.NotAfter.trans {a b c : Display} (hab : a.NotAfter b) (hbc : b.NotAfter c) :
    a.NotAfter c := by
  rw [Display.notAfter_iff] at *; omega

theorem Display.notAfter_total (a b : Display) : a.NotAfter b ∨ b.NotAfter a := by
  rw [Display.notAfter_iff, Display.notAfter_iff]; omega

/-- The displays of one snapshot, in catalog order. -/
structure Catalog where
  monitors : List Display
  sorted : monitors.Pairwise Display.NotAfter

namespace Catalog

instance : DecidableEq Catalog := fun a b =>
  decidable_of_iff (a.monitors = b.monitors)
    ⟨fun h => by cases a; cases b; simp_all, fun h => h ▸ rfl⟩

def empty : Catalog := ⟨[], .nil⟩

instance : Inhabited Catalog := ⟨empty⟩

/-- Put a display into a list in catalog order, before the displays with the same corner. -/
def place (d : Display) : List Display → List Display
  | [] => [d]
  | e :: rest => if d.NotAfter e then d :: e :: rest else e :: place d rest

theorem perm_place (d : Display) (l : List Display) : (place d l).Perm (d :: l) := by
  induction l with
  | nil => exact .refl _
  | cons e rest ih =>
    unfold place
    split
    · exact .refl _
    · exact (ih.cons e).trans (.swap d e rest)

theorem pairwise_place {d : Display} {l : List Display} (h : l.Pairwise Display.NotAfter) :
    (place d l).Pairwise Display.NotAfter := by
  induction l with
  | nil => simp [place]
  | cons e rest ih =>
    obtain ⟨he, hrest⟩ := List.pairwise_cons.1 h
    unfold place
    split
    · next hde =>
      refine List.pairwise_cons.2 ⟨fun f hf => ?_, h⟩
      rcases List.mem_cons.1 hf with rfl | hf
      · exact hde
      · exact hde.trans (he f hf)
    · next hde =>
      refine List.pairwise_cons.2 ⟨fun f hf => ?_, ih hrest⟩
      rcases List.mem_cons.1 ((perm_place d rest).mem_iff.1 hf) with rfl | hf
      · exact (Display.notAfter_total f e).resolve_left hde
      · exact he f hf

/-- The displays in catalog order. Each is placed before those that were reported after it, so the
displays with one corner keep their order. -/
def ofDisplays (displays : List Display) : Catalog where
  monitors := displays.foldr place []
  sorted := by
    induction displays with
    | nil => exact .nil
    | cons d rest ih => exact pairwise_place ih

theorem perm_ofDisplays (displays : List Display) :
    (ofDisplays displays).monitors.Perm displays := by
  induction displays with
  | nil => exact .refl _
  | cons d rest ih => exact (perm_place d _).trans (ih.cons d)

/-- Build a catalog from displays in any order. There is none of no displays. -/
def build (displays : List Display) : Except ArrangementError (Logged Catalog) :=
  if displays.isEmpty then .error .emptyTopology
  else .ok ⟨ofDisplays displays,
    [⟨.debug, .catalog, "Built monitor catalog", [("count", .number displays.length)]⟩]⟩

def size (c : Catalog) : Nat := c.monitors.length

def get? (c : Catalog) (position : Nat) : Option Display := c.monitors[position]?

/-- Refuse a position that names no monitor. -/
def check (c : Catalog) (position : Nat) : Except ArrangementError Unit :=
  if position < c.size then .ok () else .error (.outOfRange position c.size)

/-- The monitor at a position, which has to name one. -/
def monitor (c : Catalog) (position : Nat) : Except ArrangementError Display :=
  match c.get? position with
  | some d => .ok d
  | none => .error (.outOfRange position c.size)

def rect (c : Catalog) (position : Nat) : Except ArrangementError Rect :=
  (c.monitor position).map (·.rect)

/-- What a user reads about the monitor at a position. -/
def description (c : Catalog) (position : Nat) : Except ArrangementError String :=
  (c.monitor position).map (·.description)

/-- The first position whose monitor has the given platform index. -/
def positionOf? (c : Catalog) (index : UInt32) : Option Nat :=
  c.monitors.findIdx? (·.stableIndex = index)

/-- The largest right and the largest bottom edge, measured from the origin of the virtual desktop
and never below zero. -/
def extent (c : Catalog) : UInt32 × UInt32 :=
  let width := (c.monitors.map (·.rect.right)).max?.getD 0
  let height := (c.monitors.map (·.rect.bottom)).max?.getD 0
  ((size? width.toInt).getD 0, (size? height.toInt).getD 0)

theorem get?_eq_some_iff {c : Catalog} {position : Nat} {d : Display} :
    c.get? position = some d ↔ ∃ h : position < c.monitors.length, c.monitors[position] = d :=
  List.getElem?_eq_some_iff

theorem get?_eq_some_lt {c : Catalog} {position : Nat} {d : Display}
    (h : c.get? position = some d) : position < c.size :=
  (get?_eq_some_iff.1 h).1

/-- The position of a platform index is that of the first monitor that has it. -/
theorem positionOf?_eq_some_iff {c : Catalog} {index : UInt32} {position : Nat} :
    c.positionOf? index = some position ↔
      (∃ d, c.get? position = some d ∧ d.stableIndex = index) ∧
        ∀ q < position, ∀ d, c.get? q = some d → d.stableIndex ≠ index := by
  simp only [positionOf?, get?_eq_some_iff, List.findIdx?_eq_some_iff_getElem, decide_eq_true_eq]
  constructor
  · rintro ⟨hlt, hindex, hbefore⟩
    refine ⟨⟨_, ⟨hlt, rfl⟩, hindex⟩, ?_⟩
    rintro q hq d ⟨-, rfl⟩
    exact hbefore q hq
  · rintro ⟨⟨d, ⟨hlt, rfl⟩, hindex⟩, hbefore⟩
    exact ⟨hlt, hindex, fun q hq => hbefore q hq _ ⟨by omega, rfl⟩⟩

theorem isSome_get? (c : Catalog) (position : Nat) :
    (c.get? position).isSome = decide (position < c.size) := by
  by_cases h : position < c.monitors.length <;> simp [get?, size, h]

end Catalog

end Multihead
