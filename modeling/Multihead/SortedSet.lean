/-!
# Finite sets as strictly ascending lists

A `SortedSet` holds each of its members once, in ascending order, so two sets with the same members
are equal (`SortedSet.ext`) and the members can be read off in order. Every operation is described
by its effect on membership (`mem_insert`, `mem_erase`, `mem_ofList`, `mem_filter`, `mem_union`).
-/

namespace Multihead

/-- A finite set, represented by the strictly ascending list of its members. -/
structure SortedSet (α : Type) [LT α] where
  toList : List α
  ascending : toList.Pairwise (· < ·)
deriving Repr

namespace SortedSet

variable {α : Type} [LT α]

instance : Membership α (SortedSet α) where
  mem s a := a ∈ s.toList

theorem mem_toList {s : SortedSet α} {a : α} : a ∈ s.toList ↔ a ∈ s := Iff.rfl

instance [DecidableEq α] (s : SortedSet α) (a : α) : Decidable (a ∈ s) :=
  inferInstanceAs (Decidable (a ∈ s.toList))

instance [DecidableEq α] : DecidableEq (SortedSet α) := fun s t =>
  decidable_of_iff (s.toList = t.toList) ⟨fun h => by cases s; cases t; simp_all, fun h => h ▸ rfl⟩

def empty : SortedSet α := ⟨[], .nil⟩

instance : EmptyCollection (SortedSet α) := ⟨empty⟩

instance : Inhabited (SortedSet α) := ⟨empty⟩

def size (s : SortedSet α) : Nat := s.toList.length

def isEmpty (s : SortedSet α) : Bool := s.toList.isEmpty

def last? (s : SortedSet α) : Option α := s.toList.getLast?

def filter (p : α → Bool) (s : SortedSet α) : SortedSet α :=
  ⟨s.toList.filter p, s.ascending.filter p⟩

def erase [DecidableEq α] (s : SortedSet α) (a : α) : SortedSet α :=
  s.filter (· ≠ a)

@[simp] theorem not_mem_empty (a : α) : a ∉ (∅ : SortedSet α) := List.not_mem_nil

theorem isEmpty_iff {s : SortedSet α} : s.isEmpty = true ↔ s = ∅ := by
  rw [isEmpty, List.isEmpty_iff]
  exact ⟨fun h => by cases s; cases h; rfl, fun h => h ▸ rfl⟩

@[simp] theorem mem_filter {p : α → Bool} {s : SortedSet α} {a : α} :
    a ∈ s.filter p ↔ a ∈ s ∧ p a := List.mem_filter

@[simp] theorem mem_erase [DecidableEq α] {s : SortedSet α} {a b : α} :
    a ∈ s.erase b ↔ a ∈ s ∧ a ≠ b := by simp [erase]

section Order

variable [DecidableLT α] [LE α] [Std.IsLinearOrder α] [Std.LawfulOrderLT α]

/-- Put `a` into a strictly ascending list, at its place. -/
def insertInto (a : α) : List α → List α
  | [] => [a]
  | b :: rest =>
    if a < b then a :: b :: rest
    else if b < a then b :: insertInto a rest
    else b :: rest

omit [DecidableLT α] in
theorem eq_of_not_lt {a b : α} (hab : ¬ a < b) (hba : ¬ b < a) : a = b :=
  Std.le_antisymm (Std.not_lt.1 hba) (Std.not_lt.1 hab)

theorem mem_insertInto {a b : α} : {l : List α} → (b ∈ insertInto a l ↔ b = a ∨ b ∈ l)
  | [] => by simp [insertInto]
  | c :: rest => by
    unfold insertInto
    split
    · simp
    · split
      · simp only [List.mem_cons, mem_insertInto]
        grind
      · have := eq_of_not_lt ‹¬ a < c› ‹¬ c < a›
        grind

theorem pairwise_insertInto {a : α} :
    {l : List α} → l.Pairwise (· < ·) → (insertInto a l).Pairwise (· < ·)
  | [], _ => by simp [insertInto]
  | c :: rest, h => by
    obtain ⟨hc, hrest⟩ := List.pairwise_cons.1 h
    unfold insertInto
    split
    · refine List.pairwise_cons.2 ⟨fun d hd => ?_, h⟩
      rcases List.mem_cons.1 hd with rfl | hd
      · assumption
      · exact Std.lt_trans ‹a < c› (hc d hd)
    · split
      · refine List.pairwise_cons.2 ⟨fun d hd => ?_, pairwise_insertInto hrest⟩
        rcases mem_insertInto.1 hd with rfl | hd
        · assumption
        · exact hc d hd
      · exact h

def insert (s : SortedSet α) (a : α) : SortedSet α :=
  ⟨insertInto a s.toList, pairwise_insertInto s.ascending⟩

@[simp] theorem mem_insert {s : SortedSet α} {a b : α} : b ∈ s.insert a ↔ b = a ∨ b ∈ s :=
  mem_insertInto

/-- The set of the members of a list, which may be in any order and repeat. -/
def ofList (l : List α) : SortedSet α := l.foldl insert ∅

theorem mem_foldl_insert {b : α} :
    {l : List α} → {s : SortedSet α} → (b ∈ l.foldl insert s ↔ b ∈ l ∨ b ∈ s)
  | [], _ => by simp
  | a :: rest, s => by
    rw [List.foldl_cons, mem_foldl_insert]
    simp only [mem_insert, List.mem_cons]
    grind

@[simp] theorem mem_ofList {l : List α} {b : α} : b ∈ ofList l ↔ b ∈ l := by
  simp [ofList, mem_foldl_insert]

def union (s t : SortedSet α) : SortedSet α := t.toList.foldl insert s

instance : Union (SortedSet α) := ⟨union⟩

@[simp] theorem mem_union {s t : SortedSet α} {b : α} : b ∈ s ∪ t ↔ b ∈ s ∨ b ∈ t := by
  rw [show s ∪ t = t.toList.foldl insert s from rfl, mem_foldl_insert, mem_toList, or_comm]

omit [DecidableLT α] in
@[ext] theorem ext {s t : SortedSet α} (h : ∀ a, a ∈ s ↔ a ∈ t) : s = t := by
  suffices s.toList = t.toList by cases s; cases t; simp_all
  refine List.Perm.eq_of_pairwise ?_ s.ascending t.ascending ?_
  · exact fun a b _ _ hab hba => absurd (Std.lt_trans hab hba) Std.lt_irrefl
  · have ne_of_lt : ∀ {a b : α}, a < b → a ≠ b := fun hab h => Std.lt_irrefl (h ▸ hab)
    have nodup : ∀ u : SortedSet α, u.toList.Nodup := fun u => u.ascending.imp ne_of_lt
    exact (List.perm_ext_iff_of_nodup (nodup s) (nodup t)).2 h

omit [DecidableLT α] in
theorem eq_empty_iff {s : SortedSet α} : s = ∅ ↔ ∀ a, a ∉ s :=
  ⟨fun h a ha => not_mem_empty a (h ▸ ha), fun h => ext fun a => by simp [h a]⟩

@[simp] theorem union_empty (s : SortedSet α) : s ∪ ∅ = s := rfl

end Order

end SortedSet

/-- The positions `0, 1, …, n - 1`. -/
def SortedSet.range (n : Nat) : SortedSet Nat := ⟨List.range n, List.pairwise_lt_range⟩

@[simp] theorem SortedSet.mem_range {n a : Nat} : a ∈ SortedSet.range n ↔ a < n := List.mem_range

end Multihead
