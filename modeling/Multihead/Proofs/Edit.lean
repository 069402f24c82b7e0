import Multihead.Edit
import Multihead.Proofs.Arrangement.EnumerationOrder
import Multihead.Proofs.Arrangement.Restore
import Multihead.Proofs.Except

/-!
# What an edit makes of an arrangement

The toggles of an edit are done one by one, and the first that names no monitor fails the edit
(`value_toggles_of_refused`). If all of them name monitors, what they do to the selected positions
is one symmetric difference with the positions that are named an odd number of times
(`exists_value_toggles`). So the order of the toggles is seen in nothing but the failure
(`apply_edits`). An edit changes the mode and the selection, never the monitors (`catalog_apply`).
-/

namespace Multihead.Edit

open Arrangement

/-- Apply edits one after the other, as long as they succeed. -/
def applyAll (a : Arrangement) (edits : List Edit) : Except Failure Arrangement :=
  edits.foldlM (fun a edit => (edit.apply a).run.value) a

/-- Whether a number, counted from one, names one of `count` monitors. -/
def Names (count number : Nat) : Prop := 1 ≤ number ∧ number ≤ count

instance (count number : Nat) : Decidable (Names count number) :=
  inferInstanceAs (Decidable (_ ∧ _))

/-- Why a number that names no monitor is refused. -/
def refusal (count number : Nat) : Failure :=
  if number = 0 then .positionZero else .arrangement (.outOfRange (number - 1) count)

/-- The positions whose numbers stand an odd number of times in a list. -/
def oddly (numbers : List Nat) : Set Nat := {p | Odd (numbers.count (p + 1))}

/-- What an edit makes of the arrangement `a`, if it does not ask for every monitor. -/
structure Edited (edit : Edit) (a b : Arrangement) : Prop where
  catalog : b.catalog = a.catalog
  picked : b.picked = symmDiff (if edit.clear then ∅ else a.picked) (oddly edit.toggles)
  mode : b.mode =
    edit.mode.getD (if edit.clear = true ∨ edit.toggles ≠ [] then .selected else a.mode)

variable {a b : Arrangement} {edit : Edit} {number count : Nat} {numbers before after : List Nat}

/-! ## One toggle -/

theorem value_run_bind {α β : Type} (attempt : ExceptT Failure Logged α)
    (next : α → ExceptT Failure Logged β) :
    (attempt >>= next).run.value =
      (attempt.run.value >>= fun value => (next value).run.value) := by
  rw [ExceptT.run_bind, Logged.value_bind]
  cases attempt.run.value <;> rfl

theorem exists_value_toggle (h : Names a.count number) :
    ∃ b, (toggle a number).run.value = .ok b ∧ b.catalog = a.catalog ∧ b.mode = a.mode ∧
      b.picked = symmDiff a.picked {number - 1} := by
  obtain ⟨hpos, hle⟩ := h
  have hlt : number - 1 < a.count := by omega
  obtain ⟨t, ht, hset⟩ := a.selection.toggle_of_lt hlt
  refine ⟨a.withSelection t, ?_, rfl, rfl, hset⟩
  have hzero : number ≠ 0 := by omega
  simp only [toggle, hzero, if_false, on_toggle, ht]
  rfl

theorem value_toggle_of_refused (h : ¬ Names a.count number) :
    (toggle a number).run.value = .error (refusal a.count number) := by
  by_cases hzero : number = 0
  · simp only [toggle, refusal, hzero, if_true]
    rfl
  · have hle : a.count ≤ number - 1 := by
      by_contra hlt
      exact h ⟨by omega, by omega⟩
    simp only [toggle, refusal, hzero, if_false, on_toggle, a.selection.toggle_of_le hle]
    rfl

theorem oddly_nil : oddly [] = ∅ := by
  ext p
  simp [oddly]

theorem oddly_cons (h : 1 ≤ number) :
    oddly (number :: numbers) = symmDiff {number - 1} (oddly numbers) := by
  -- one more occurrence turns the parity of its own position, and of no other
  ext p
  simp only [oddly, Set.mem_symmDiff, Set.mem_singleton_iff, Set.mem_ofPred_eq, List.count_cons]
  by_cases hp : p = number - 1
  · have hnumber : number = p + 1 := by omega
    simp [hnumber, Nat.odd_add_one]
  · have hnumber : number ≠ p + 1 := by omega
    simp [hp, hnumber]

theorem oddly_perm {others : List Nat} (h : others.Perm numbers) :
    oddly others = oddly numbers := by
  unfold oddly
  simp only [h.count_eq]

/-! ## The toggles of an edit -/

theorem value_toggles_cons : ((number :: numbers).foldlM toggle a).run.value =
    (toggle a number).run.value >>= fun b => (numbers.foldlM toggle b).run.value := by
  rw [List.foldlM_cons, value_run_bind]

/-- Toggles that all name monitors succeed, and what they do adds up by symmetric difference. -/
theorem exists_value_toggles (h : ∀ t ∈ numbers, Names a.count t) :
    ∃ b, (numbers.foldlM toggle a).run.value = .ok b ∧ b.catalog = a.catalog ∧ b.mode = a.mode ∧
      b.picked = symmDiff a.picked (oddly numbers) := by
  induction numbers generalizing a with
  | nil =>
    refine ⟨a, rfl, rfl, rfl, ?_⟩
    rw [oddly_nil]
    exact (symmDiff_bot a.picked).symm
  | cons number numbers ih =>
    obtain ⟨hnumber, hnumbers⟩ := List.forall_mem_cons.1 h
    obtain ⟨next, htoggle, hcatalog, hmode, hpicked⟩ := exists_value_toggle hnumber
    have hcount : next.count = a.count := congrArg Catalog.size hcatalog
    obtain ⟨b, hrest, hcatalog', hmode', hpicked'⟩ := ih (a := next) (hcount ▸ hnumbers)
    refine ⟨b, ?_, hcatalog'.trans hcatalog, hmode'.trans hmode, ?_⟩
    · rw [value_toggles_cons, htoggle]
      exact hrest
    · rw [hpicked', hpicked, oddly_cons hnumber.1, symmDiff_assoc]

/-- The first toggle that names no monitor fails the others. -/
theorem value_toggles_of_refused (hbefore : ∀ t ∈ before, Names a.count t)
    (h : ¬ Names a.count number) :
    ((before ++ number :: after).foldlM toggle a).run.value = .error (refusal a.count number) := by
  obtain ⟨b, hvalue, hcatalog, -, -⟩ := exists_value_toggles hbefore
  have hcount : b.count = a.count := congrArg Catalog.size hcatalog
  rw [List.foldlM_append, value_run_bind, hvalue]
  change ((number :: after).foldlM toggle b).run.value = _
  -- the toggles before it keep the monitors, so it is refused as it would be at the start
  rw [← hcount] at h
  rw [value_toggles_cons, value_toggle_of_refused h, hcount]
  rfl

/-- Of numbers that do not all name monitors there is a first that does not. -/
theorem exists_first_refused (h : ¬ ∀ t ∈ numbers, Names count t) :
    ∃ before number after, numbers = before ++ number :: after ∧
      (∀ t ∈ before, Names count t) ∧ ¬ Names count number := by
  obtain ⟨t, ht, hrefused⟩ : ∃ t ∈ numbers, ¬ Names count t := by simpa using h
  have hsome : (numbers.find? (¬ Names count ·)).isSome :=
    List.find?_isSome.2 ⟨t, ht, decide_eq_true hrefused⟩
  obtain ⟨number, hfind⟩ := Option.isSome_iff_exists.1 hsome
  obtain ⟨hnumber, before, after, heq, hbefore⟩ := List.find?_eq_some_iff_append.1 hfind
  refine ⟨before, number, after, heq, ?_, of_decide_eq_true hnumber⟩
  intro t ht
  simpa using hbefore t ht

/-! ## Whole edits -/

/-- What the toggles are done to. -/
def base (edit : Edit) (a : Arrangement) : Arrangement := if edit.clear then a.clear else a

theorem base_spec (edit : Edit) (a : Arrangement) :
    (edit.base a).catalog = a.catalog ∧ (edit.base a).mode = a.mode ∧
      (edit.base a).picked = if edit.clear then ∅ else a.picked := by
  unfold base
  split
  · exact ⟨rfl, rfl, Selection.toSet_unselected _⟩
  · exact ⟨rfl, rfl, rfl⟩

theorem value_apply_of_all (h : edit.all = true) :
    (edit.apply a).run.value = .ok { a with mode := .all } := by
  simp only [apply, h, if_true]
  rfl

/-- Unless every monitor is asked for, an edit is its toggles followed by the mode. -/
theorem value_apply_of_not_all (h : edit.all = false) :
    (edit.apply a).run.value = (edit.toggles.foldlM toggle (edit.base a)).run.value.map
      fun edited => { edited with mode := edit.impliedMode.getD edited.mode } := by
  simp only [apply, h, Bool.false_eq_true, if_false, value_run_bind]
  change ((edit.toggles.foldlM toggle (edit.base a)).run.value >>= _) = _
  cases (edit.toggles.foldlM toggle (edit.base a)).run.value with
  | error e => rfl
  | ok edited => cases edit.impliedMode <;> rfl

theorem getD_impliedMode (edit : Edit) (mode : FullscreenMode) :
    edit.impliedMode.getD mode =
      edit.mode.getD (if edit.clear = true ∨ edit.toggles ≠ [] then .selected else mode) := by
  unfold impliedMode
  cases edit.mode with
  | some given => rfl
  | none =>
    simp only [Option.none_or, Option.getD_none, Bool.or_eq_true, Bool.not_eq_true',
      List.isEmpty_eq_false_iff]
    split <;> rfl

theorem exists_edited (hall : edit.all = false) (h : ∀ t ∈ edit.toggles, Names a.count t) :
    ∃ b, (edit.apply a).run.value = .ok b ∧ Edited edit a b := by
  obtain ⟨hcatalog, hmode, hpicked⟩ := edit.base_spec a
  have hcount : (edit.base a).count = a.count := congrArg Catalog.size hcatalog
  obtain ⟨b, hvalue, hcatalog', hmode', hpicked'⟩ :=
    exists_value_toggles (a := edit.base a) (hcount ▸ h)
  refine ⟨{ b with mode := edit.impliedMode.getD b.mode }, ?_, hcatalog'.trans hcatalog, ?_, ?_⟩
  · rw [value_apply_of_not_all hall, hvalue]
    rfl
  · exact hpicked'.trans (by rw [hpicked])
  · exact (edit.getD_impliedMode b.mode).trans (by rw [hmode', hmode])

theorem exists_refused (hall : edit.all = false) (h : ¬ ∀ t ∈ edit.toggles, Names a.count t) :
    ∃ before number after, edit.toggles = before ++ number :: after ∧
      (∀ t ∈ before, Names a.count t) ∧ ¬ Names a.count number ∧
      (edit.apply a).run.value = .error (refusal a.count number) := by
  obtain ⟨hcatalog, -, -⟩ := edit.base_spec a
  have hcount : (edit.base a).count = a.count := congrArg Catalog.size hcatalog
  obtain ⟨before, number, after, heq, hbefore, hrefused⟩ := exists_first_refused h
  refine ⟨before, number, after, heq, hbefore, hrefused, ?_⟩
  rw [← hcount] at hbefore hrefused
  rw [value_apply_of_not_all hall, heq, value_toggles_of_refused hbefore hrefused, hcount]
  rfl

/-- An edit succeeds exactly if all its toggles name monitors, and then with one outcome. -/
theorem value_apply_eq_ok_iff (hall : edit.all = false) :
    (edit.apply a).run.value = .ok b ↔
      (∀ t ∈ edit.toggles, Names a.count t) ∧ Edited edit a b := by
  by_cases h : ∀ t ∈ edit.toggles, Names a.count t
  · obtain ⟨found, hvalue, hfound⟩ := exists_edited hall h
    rw [and_iff_right h, hvalue, Except.ok.injEq]
    constructor
    · rintro rfl
      exact hfound
    · intro hb
      exact eq_of_positions_eq (hfound.catalog.trans hb.catalog.symm)
        (hfound.mode.trans hb.mode.symm)
        (positions_eq_of_picked_eq (hfound.picked.trans hb.picked.symm))
  · obtain ⟨_, _, _, _, _, _, hvalue⟩ := exists_refused hall h
    rw [hvalue]
    exact iff_of_false nofun fun hb => h hb.1

/-- The monitors stay as they are. -/
theorem catalog_apply (h : (edit.apply a).run.value = .ok b) : b.catalog = a.catalog := by
  cases hall : edit.all with
  | true =>
    obtain rfl := Except.ok.inj ((value_apply_of_all hall).symm.trans h)
    rfl
  | false => exact ((value_apply_eq_ok_iff hall).1 h).2.catalog

theorem Edited.of_perm {toggles : List Nat} (hb : Edited edit a b)
    (h : toggles.Perm edit.toggles) : Edited { edit with toggles } a b where
  catalog := hb.catalog
  picked := by rw [hb.picked, oddly_perm h]
  mode := by
    have hnil : toggles ≠ [] ↔ edit.toggles ≠ [] := by
      rw [List.ne_nil_iff_length_pos, List.ne_nil_iff_length_pos, h.length_eq]
    rw [hb.mode]
    simp only [hnil]

/-- The order of the toggles does not matter to an edit that succeeds. -/
theorem value_apply_of_perm {toggles : List Nat} (hall : edit.all = false)
    (h : toggles.Perm edit.toggles) (hvalue : (edit.apply a).run.value = .ok b) :
    ({ edit with toggles }.apply a).run.value = .ok b := by
  obtain ⟨hnames, hb⟩ := (value_apply_eq_ok_iff hall).1 hvalue
  refine (value_apply_eq_ok_iff ?_).2 ⟨?_, hb.of_perm h⟩
  · exact hall
  · intro t ht
    exact hnames t (h.mem_iff.1 ht)

theorem message_refusal (describe : Json.Fault → String) (count number : Nat) :
    (refusal count number).message describe = "Selection error: " ++
      if number = 0 then "Monitor positions start at 1"
      else "Monitor position " ++ toString (number - 1) ++ " is out of range (" ++
        toString count ++ " monitors)" := by
  unfold refusal
  split <;> rfl

/-- Applying an edit. To ask for every monitor sets the mode `all` and does nothing else. Any other
edit succeeds exactly if each of its toggles names a monitor. It then begins with the selection or
with none, flips the positions that are named an odd number of times, and sets its own mode, or the
mode `selected` if it clears or toggles anything; with its toggles in another order it does the
same. It fails with what is wrong with the first toggle that names no monitor. -/
theorem apply_edits (edit : Edit) (a : Arrangement) :
    let outcome := (edit.apply a).run.value
    (edit.all = true → outcome = .ok { a with mode := .all }) ∧
      (edit.all = false →
        ((∃ b, outcome = .ok b) ↔ ∀ t ∈ edit.toggles, 1 ≤ t ∧ t ≤ a.count) ∧
        (∀ b, outcome = .ok b → Edited edit a b ∧ ∀ toggles, toggles.Perm edit.toggles →
          ({ edit with toggles }.apply a).run.value = .ok b) ∧
        ∀ failure, outcome = .error failure → ∃ before t after,
          edit.toggles = before ++ t :: after ∧ (∀ u ∈ before, 1 ≤ u ∧ u ≤ a.count) ∧
          (t = 0 ∧ failure = .positionZero ∨
            a.count < t ∧ failure = .arrangement (.outOfRange (t - 1) a.count)) ∧
          ∀ describe, failure.message describe = "Selection error: " ++
            if t = 0 then "Monitor positions start at 1"
            else "Monitor position " ++ toString (t - 1) ++ " is out of range (" ++
              toString a.count ++ " monitors)") := by
  intro outcome
  refine ⟨value_apply_of_all, fun hall => ⟨?_, ?_, ?_⟩⟩
  · constructor
    · rintro ⟨b, hb⟩
      exact ((value_apply_eq_ok_iff hall).1 hb).1
    · intro h
      obtain ⟨b, hb, -⟩ := exists_edited hall h
      exact ⟨b, hb⟩
  · intro b hb
    refine ⟨((value_apply_eq_ok_iff hall).1 hb).2, ?_⟩
    intro toggles hperm
    exact value_apply_of_perm hall hperm hb
  · intro failure hfailure
    have hrefused : ¬ ∀ t ∈ edit.toggles, Names a.count t := by
      intro h
      obtain ⟨b, hb, -⟩ := exists_edited hall h
      cases hfailure.symm.trans hb
    obtain ⟨before, t, after, heq, hbefore, ht, hvalue⟩ := exists_refused hall hrefused
    obtain rfl := Except.error.inj (hfailure.symm.trans hvalue)
    refine ⟨before, t, after, heq, hbefore, ?_, fun describe => message_refusal describe _ _⟩
    by_cases hzero : t = 0
    · exact .inl ⟨hzero, if_pos hzero⟩
    · refine .inr ⟨?_, if_neg hzero⟩
      by_contra hle
      exact ht ⟨by omega, by omega⟩

-- three monitors, of which the first is selected and the third is toggled three times
example :
    let a := (Arrangement.ofDisplays [⟨0, ⟨0, 0, 10, 10⟩, none⟩, ⟨1, ⟨10, 0, 10, 10⟩, none⟩,
      ⟨2, ⟨20, 0, 10, 10⟩, none⟩]).value.performAll [.toggle 0]
    ((({ toggles := [3, 1, 3, 3] } : Edit).apply a).run.value.map (·.selection.positions.toList))
      = .ok [2] := by decide

end Multihead.Edit
