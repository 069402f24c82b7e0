import Multihead.Arrangement.Call
import Multihead.Proofs.Arrangement.Request
import Multihead.Proofs.Selection
import Multihead.Proofs.SelectionText.Grammar

/-!
# Arrangements as a mode and a set

An arrangement behaves as a mode beside a set of positions. The model says for each call which mode
it sets (`Call.mode?`), what it does to the set (`Call.edit`) and when it cannot be met
(`Call.Unmet`), without the arrangement's own operations. Performing a call leads to one of three
outcomes (`perform_outcome`); a run is then the replay of the calls that succeeded
(`performAll_eq_replay`).
-/

namespace Multihead.Arrangement

open SelectionText Text

/-! ## The model -/

/-- The positions among `count` whose numbers, counted from one, stand in a text. -/
def written (count : Nat) (text : String) : Set Nat :=
  {p | p < count ∧ HasNumber text.toList (p + 1)}

/-- The positions of the monitors with the given platform indices, for each index the first. -/
def indexed (c : Catalog) (indices : SortedSet UInt32) : Set Nat :=
  {p | ∃ index ∈ indices, (∃ d, c.get? p = some d ∧ d.stableIndex = index) ∧
    ∀ q < p, ∀ d, c.get? q = some d → d.stableIndex ≠ index}

/-- The set that a selection text leaves of `picked`. -/
def rewritten (count : Nat) (text : String) (picked : Set Nat) : Set Nat :=
  if text = allWord then picked else written count text

namespace Call

/-- The mode that a call sets when it succeeds. -/
def mode? : Call → Option FullscreenMode
  | .setMode mode => some mode
  | .applyText text => if text = allWord then some .all else none
  | .applySettings settings => some (if settings.selection = allWord then .all else settings.mode)
  | _ => none

/-- What a call does to the selected positions of a catalog when it succeeds. -/
def edit (c : Catalog) (picked : Set Nat) : Call → Set Nat
  | .set position true => insert position picked
  | .set position false => picked \ {position}
  | .toggle position => symmDiff picked {position}
  | .clear => ∅
  | .setMode _ => picked
  | .applyText text => rewritten c.size text picked
  | .applySettings settings => rewritten c.size settings.selection picked
  | .selectIndices indices => indexed c indices

/-- Whether a call names none of `count` monitors, or gives a text that is no selection. -/
def Unmet (count : Nat) : Call → Prop
  | .set position _ => count ≤ position
  | .toggle position => count ≤ position
  | .applyText text => text ≠ allWord ∧ ¬ WellFormed text.toList
  | .applySettings settings =>
    settings.selection ≠ allWord ∧ ¬ WellFormed settings.selection.toList
  | _ => False

end Call

/-- The selected positions as a set, whatever the mode. -/
def picked (a : Arrangement) : Set Nat := a.selection.toSet

/-- The calls of a run that were not answered by a failure. -/
def succeeded (a : Arrangement) : List Call → List Call
  | [] => []
  | call :: rest =>
    let (reply, b) := (a.perform call).value
    if reply.isFailure then b.succeeded rest else call :: b.succeeded rest

/-! ## One call -/

/-- All that performing a call can lead to. -/
inductive Outcome (a : Arrangement) (call : Call) : Reply × Arrangement → Prop
  | refused {position : Nat} (hcall : call.Unmet a.count) (hposition : a.count ≤ position) :
    Outcome a call (.refused (.outOfRange position a.count), a)
  | unreadable {e : SelectionText.Error} (hcall : call.Unmet a.count) :
    Outcome a call (.unreadable e, a)
  | done {reply : Reply} {b : Arrangement} (hcall : ¬ call.Unmet a.count)
    (hreply : reply.isFailure = false) (hcatalog : b.catalog = a.catalog)
    (hmode : b.mode = call.mode?.getD a.mode) (hpicked : b.picked = call.edit a.catalog a.picked) :
    Outcome a call (reply, b)

theorem value_answer {ε α : Type} (a : Arrangement) (failure : ε → Reply) (success : α → Reply)
    (request : Request ε α) : (a.answer failure success request).value =
      (.of failure success (request.on a).value.1, (request.on a).value.2) := rfl

/-- Applying what a text says, once it is read, depends on the text alone. -/
theorem apply_of_parse {text : String} {said : SelectionText} (a : Arrangement)
    (h : parse text = .ok said) :
    let b := (a.apply said).value.2
    b.catalog = a.catalog ∧ b.mode = (if text = allWord then .all else a.mode) ∧
      b.picked = rewritten a.count text a.picked := by
  cases said with
  | all =>
    have hall := parse_eq_all_iff.1 h
    exact ⟨rfl, by rw [if_pos hall]; rfl, by rw [rewritten, if_pos hall]; rfl⟩
  | positions set =>
    have hall : text ≠ allWord := by
      intro hall
      rw [parse_eq_all_iff.2 hall] at h
      cases h
    obtain ⟨-, hmem⟩ := parse_eq_positions_iff.1 h
    refine ⟨rfl, by rw [if_neg hall]; rfl, ?_⟩
    rw [rewritten, if_neg hall]
    ext p
    change p ∈ (Selection.restore a.count set).value.1.applied ↔ p < a.count ∧ _
    rw [Selection.mem_applied_restore, hmem, writes_natCast, and_comm]

/-- What restoring a text comes to: what the text says is applied to `b`, unless it cannot be read
and `a` stays. -/
def restoring (a b : Arrangement) (text : String) : Reply × Arrangement :=
  match parse text with
  | .error e => (.unreadable e, a)
  | .ok said => (.restored (b.apply said).value.1, (b.apply said).value.2)

theorem restoring_of_error {a b : Arrangement} {text : String} {e : SelectionText.Error}
    (h : parse text = .error e) : restoring a b text = (.unreadable e, a) := by
  rw [restoring, h]

theorem restoring_of_ok {a b : Arrangement} {text : String} {said : SelectionText}
    (h : parse text = .ok said) :
    restoring a b text = (.restored (b.apply said).value.1, (b.apply said).value.2) := by
  rw [restoring, h]

theorem mem_indexed {c : Catalog} {indices : SortedSet UInt32} {p : Nat} :
    p ∈ indexed c indices ↔
      p ∈ SortedSet.ofList (indices.toList.filterMap c.positionOf?) := by
  simp only [indexed, Set.mem_ofPred_eq, SortedSet.mem_ofList, List.mem_filterMap,
    SortedSet.mem_toList, Catalog.positionOf?_eq_some_iff]

/-- A call whose effect is that of reading a text, on an arrangement `b` with the same monitors. -/
theorem outcome_of_parse {a : Arrangement} {call : Call} (b : Arrangement) (text : String)
    (hperform : (a.perform call).value = restoring a b text)
    (hunmet : call.Unmet a.count ↔ text ≠ allWord ∧ ¬ WellFormed text.toList)
    (hcatalog : b.catalog = a.catalog)
    (hmode : (if text = allWord then .all else b.mode) = call.mode?.getD a.mode)
    (hpicked : rewritten b.count text b.picked = call.edit a.catalog a.picked) :
    Outcome a call (a.perform call).value := by
  rw [hperform]
  cases hparse : parse text with
  | error e =>
    have hbad := exists_parse_eq_error_iff.1 ⟨e, hparse⟩
    rw [restoring_of_error hparse]
    exact .unreadable (hunmet.2 hbad)
  | ok said =>
    have hgood : ¬ call.Unmet a.count := by
      intro h
      obtain ⟨e, he⟩ := exists_parse_eq_error_iff.2 (hunmet.1 h)
      cases hparse.symm.trans he
    obtain ⟨hc, hm, hp⟩ := b.apply_of_parse hparse
    rw [restoring_of_ok hparse]
    exact .done hgood rfl (hc.trans hcatalog) (hm.trans hmode) (hp.trans hpicked)

section Positions

variable (a : Arrangement) (selected : Bool) {position : Nat}

theorem perform_set_of_le (h : a.count ≤ position) :
    (a.perform (.set position selected)).value =
      (.refused (.outOfRange position a.count), a) := by
  rw [perform, value_answer, on_set, a.selection.set_of_le selected h]
  rfl

theorem perform_set_of_lt (h : position < a.count) :
    ∃ t, (a.perform (.set position selected)).value = (.done, a.withSelection t) ∧
      t.toSet = Call.edit a.catalog a.picked (.set position selected) := by
  obtain ⟨t, ht, hset⟩ := a.selection.set_of_lt selected h
  refine ⟨t, ?_, hset.trans ?_⟩
  · rw [perform, value_answer, on_set, ht]
    rfl
  · cases selected <;> rfl

theorem perform_toggle_of_le (h : a.count ≤ position) :
    (a.perform (.toggle position)).value = (.refused (.outOfRange position a.count), a) := by
  rw [perform, value_answer, on_toggle, a.selection.toggle_of_le h]
  rfl

theorem perform_toggle_of_lt (h : position < a.count) :
    ∃ t, (a.perform (.toggle position)).value =
        (.toggled (decide (position ∉ a.selection.positions)), a.withSelection t) ∧
      t.toSet = Call.edit a.catalog a.picked (.toggle position) := by
  obtain ⟨t, ht, hset⟩ := a.selection.toggle_of_lt h
  refine ⟨t, ?_, hset⟩
  rw [perform, value_answer, on_toggle, ht]
  rfl

theorem outcome_set : Outcome a (.set position selected)
    (a.perform (.set position selected)).value := by
  rcases Nat.lt_or_ge position a.count with hlt | hle
  · obtain ⟨t, hperform, hset⟩ := a.perform_set_of_lt selected hlt
    rw [hperform]
    exact .done (Nat.not_le.2 hlt) rfl rfl rfl hset
  · rw [a.perform_set_of_le selected hle]
    exact .refused hle hle

theorem outcome_toggle : Outcome a (.toggle position) (a.perform (.toggle position)).value := by
  rcases Nat.lt_or_ge position a.count with hlt | hle
  · obtain ⟨t, hperform, hset⟩ := a.perform_toggle_of_lt hlt
    rw [hperform]
    exact .done (Nat.not_le.2 hlt) rfl rfl rfl hset
  · rw [a.perform_toggle_of_le hle]
    exact .refused hle hle

end Positions

theorem perform_applyText (a : Arrangement) (text : String) :
    (a.perform (.applyText text)).value = restoring a a text := by
  rw [perform, value_answer, on_applyText, restoring]
  cases parse text <;> rfl

/-- The mode is set first, and the word for every monitor then sets it again. -/
theorem perform_applySettings (a : Arrangement) (settings : FullscreenSettings) :
    (a.perform (.applySettings settings)).value =
      restoring a (a.setMode settings.mode).value settings.selection := by
  rw [perform, value_answer, on_applySettings, restoring]
  cases parse settings.selection <;> rfl

/-- Platform indices are looked up in the catalog, so the positions found are never out of range. -/
theorem exists_selectIndices (a : Arrangement) (indices : SortedSet UInt32) :
    ∃ b, ((selectIndices indices).on a).value =
        (.ok (indices.toList.filter (a.catalog.positionOf? · |>.isNone)), b) ∧
      b.catalog = a.catalog ∧ b.mode = a.mode ∧
      b.selection.positions = .ofList (indices.toList.filterMap a.catalog.positionOf?) := by
  have hrange : ∀ p ∈ SortedSet.ofList (indices.toList.filterMap a.catalog.positionOf?),
      p < a.catalog.size := by
    intro p hp
    obtain ⟨index, -, ⟨d, hd, -⟩, -⟩ := mem_indexed.2 hp
    exact Catalog.get?_eq_some_lt hd
  refine ⟨a.withSelection ⟨_, hrange⟩, ?_, rfl, rfl, rfl⟩
  rw [value_on_selectIndices, Selection.ofPositions_of_forall hrange]
  rfl

theorem outcome_selectIndices (a : Arrangement) (indices : SortedSet UInt32) :
    Outcome a (.selectIndices indices) (a.perform (.selectIndices indices)).value := by
  obtain ⟨b, hselect, hcatalog, hmode, hpositions⟩ := a.exists_selectIndices indices
  have hperform : (a.perform (.selectIndices indices)).value =
      (.unknown (indices.toList.filter (a.catalog.positionOf? · |>.isNone)), b) := by
    rw [perform, value_answer, hselect]
    rfl
  rw [hperform]
  refine .done id rfl hcatalog hmode (Set.ext fun p => ?_)
  rw [picked, Selection.mem_toSet, hpositions]
  exact mem_indexed.symm

theorem perform_outcome (a : Arrangement) (call : Call) :
    Outcome a call (a.perform call).value := by
  cases call with
  | set position selected => exact a.outcome_set selected
  | toggle position => exact a.outcome_toggle
  | clear => exact .done id rfl rfl rfl (Selection.toSet_unselected _)
  | setMode mode => exact .done id rfl rfl rfl rfl
  | applyText text =>
    refine outcome_of_parse a text (a.perform_applyText text) Iff.rfl rfl ?_ rfl
    rw [Call.mode?]
    split <;> rfl
  | applySettings settings =>
    exact outcome_of_parse (a.setMode settings.mode).value settings.selection
      (a.perform_applySettings settings) Iff.rfl rfl rfl rfl
  | selectIndices indices => exact a.outcome_selectIndices indices

/-- What a call makes of the mode and the set. -/
theorem perform_effect (a : Arrangement) (call : Call) :
    (call.Unmet a.count → (a.perform call).value.2 = a) ∧
      (¬ call.Unmet a.count → (a.perform call).value.2.catalog = a.catalog ∧
        (a.perform call).value.2.mode = call.mode?.getD a.mode ∧
        (a.perform call).value.2.picked = call.edit a.catalog a.picked) := by
  have houtcome := a.perform_outcome call
  generalize (a.perform call).value = outcome at houtcome ⊢
  cases houtcome with
  | refused hcall hposition => exact ⟨fun _ => rfl, fun hmet => absurd hcall hmet⟩
  | unreadable hcall => exact ⟨fun _ => rfl, fun hmet => absurd hcall hmet⟩
  | done hcall hreply hcatalog hmode hpicked =>
    exact ⟨fun hunmet => absurd hunmet hcall, fun _ => ⟨hcatalog, hmode, hpicked⟩⟩

theorem isFailure_perform_iff (a : Arrangement) (call : Call) :
    (a.perform call).value.1.isFailure = true ↔ call.Unmet a.count := by
  have houtcome := a.perform_outcome call
  generalize (a.perform call).value = outcome at houtcome ⊢
  cases houtcome with
  | refused hcall hposition => exact iff_of_true rfl hcall
  | unreadable hcall => exact iff_of_true rfl hcall
  | done hcall hreply => exact iff_of_false (by simp [hreply]) hcall

/-- A call that fails changes nothing, and says what was wrong with it. -/
theorem perform_of_isFailure {a : Arrangement} {call : Call}
    (hfail : (a.perform call).value.1.isFailure = true) :
    (a.perform call).value.2 = a ∧
      ((∃ position, a.count ≤ position ∧
          (a.perform call).value.1 = .refused (.outOfRange position a.count)) ∨
        ∃ e, (a.perform call).value.1 = .unreadable e) := by
  have houtcome := a.perform_outcome call
  generalize (a.perform call).value = outcome at houtcome hfail ⊢
  cases houtcome with
  | refused hcall hposition => exact ⟨rfl, .inl ⟨_, hposition, rfl⟩⟩
  | unreadable hcall => exact ⟨rfl, .inr ⟨_, rfl⟩⟩
  | done hcall hreply =>
    rw [hreply] at hfail
    cases hfail

/-! ## Runs -/

theorem succeeded_cons (a : Arrangement) (call : Call) (rest : List Call) :
    a.succeeded (call :: rest) =
      if (a.perform call).value.1.isFailure then (a.perform call).value.2.succeeded rest
      else call :: (a.perform call).value.2.succeeded rest := rfl

/-- A run is the replay of the calls that succeeded, on the mode and on the set. -/
theorem performAll_eq_replay (a : Arrangement) (calls : List Call) :
    (a.performAll calls).catalog = a.catalog ∧
      (a.performAll calls).mode =
        (a.succeeded calls).foldl (fun mode call => call.mode?.getD mode) a.mode ∧
      (a.performAll calls).picked = (a.succeeded calls).foldl (Call.edit a.catalog) a.picked := by
  induction calls generalizing a with
  | nil => exact ⟨rfl, rfl, rfl⟩
  | cons call rest ih =>
    have hrun : a.performAll (call :: rest) = (a.perform call).value.2.performAll rest := rfl
    have houtcome := a.perform_outcome call
    rw [hrun, succeeded_cons]
    generalize (a.perform call).value = outcome at houtcome ⊢
    obtain ⟨hcatalog, hmode, hpicked⟩ := ih outcome.2
    rw [hcatalog, hmode, hpicked]
    cases houtcome with
    | refused hcall hposition => exact ⟨rfl, rfl, rfl⟩
    | unreadable hcall => exact ⟨rfl, rfl, rfl⟩
    | done hcall hreply hb hm hp =>
      simp only [hreply, Bool.false_eq_true, if_false, List.foldl_cons, hb, hm, hp]
      exact ⟨trivial, trivial, trivial⟩

/-- Whatever calls are made, the monitors are the displays that the arrangement was made of. -/
theorem perm_monitors_performAll (displays : List Display) (calls : List Call) :
    ((ofDisplays displays).value.performAll calls).catalog.monitors.Perm displays := by
  obtain ⟨hcatalog, -, -⟩ := (ofDisplays displays).value.performAll_eq_replay calls
  rw [hcatalog]
  cases displays with
  | nil => exact .refl _
  | cons d rest => exact Catalog.perm_ofDisplays (d :: rest)

/-- What is set again and again is what was set last. -/
theorem foldl_getD_eq_getLast? {α β : Type} (f : α → Option β) (l : List α) (b : β) :
    l.foldl (fun b a => (f a).getD b) b = (l.filterMap f).getLast?.getD b := by
  induction l generalizing b with
  | nil => rfl
  | cons a l ih =>
    rw [List.foldl_cons, ih]
    cases hf : f a with
    | none => rw [List.filterMap_cons_none hf, Option.getD_none]
    | some c =>
      rw [List.filterMap_cons_some hf, List.getLast?_cons, Option.getD_some, Option.getD_some]

/-- Runs of an arrangement, from its displays and through any calls. The monitors stay those at the
start, and the selection is sized for them and names no others. The mode is the one that a call set
last, of those that succeeded, and `selected` before any did; the selected positions are those that
the same calls make of the empty set one after the other. A call fails exactly if it cannot be met,
with the position that names no monitor or the error of its text, and then changes nothing. -/
theorem run_refines_model (displays : List Display) (calls : List Call) :
    let start := (ofDisplays displays).value
    let done := start.succeeded calls
    let a := start.performAll calls
    (a.catalog = start.catalog ∧ a.selection.monitorCount = a.catalog.size ∧
      ∀ p ∈ a.selection.positions, p < a.catalog.size) ∧
    a.mode = (done.filterMap Call.mode?).getLast?.getD .selected ∧
    {p | p ∈ a.selection.positions} = done.foldl (Call.edit start.catalog) ∅ ∧
    ∀ call, ((a.perform call).value.1.isFailure = true ↔ call.Unmet a.count) ∧
      ((a.perform call).value.1.isFailure = true → (a.perform call).value.2 = a ∧
        ((∃ position, a.count ≤ position ∧
            (a.perform call).value.1 = .refused (.outOfRange position a.count)) ∨
          ∃ e, (a.perform call).value.1 = .unreadable e)) := by
  intro start done a
  obtain ⟨hcatalog, hmode, hpicked⟩ := start.performAll_eq_replay calls
  have hstart : start.mode = .selected ∧ start.picked = ∅ := by
    simp only [start, ofDisplays]
    split <;> exact ⟨rfl, Selection.toSet_unselected _⟩
  refine ⟨⟨hcatalog, rfl, a.selection.inRange⟩, ?_, ?_, fun call => ?_⟩
  · rw [hmode, foldl_getD_eq_getLast?, hstart.1]
  · exact hpicked.trans (by rw [hstart.2])
  · exact ⟨isFailure_perform_iff a call, perform_of_isFailure⟩

end Multihead.Arrangement
