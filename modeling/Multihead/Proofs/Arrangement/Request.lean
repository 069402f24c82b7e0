import Multihead.Arrangement

/-!
# What requests come to

A request makes one attempt, and changes the arrangement only after the attempt has succeeded. So
what it comes to is decided by the attempt (`Request.decided`), which one equation says for each
request. A request that fails therefore leaves the arrangement as it was (`requests_atomic`),
although what it leaves is the arrangement that it worked on and not one that was put aside.
-/

namespace Multihead.Arrangement

namespace Request

variable {ε α β γ : Type} {request : Request ε α}

/-- A request that fails leaves the arrangement as it was. -/
def Atomic (request : Request ε α) : Prop :=
  ∀ a e b, (request.on a).value = (.error e, b) → b = a

/-- The change that follows an attempt, or its failure beside the arrangement as it was. -/
def decided (a : Arrangement) (attempt : Except ε γ) (change : γ → Logged (α × Arrangement)) :
    Logged (Except ε α × Arrangement) :=
  match attempt with
  | .ok value => do
    let (result, b) ← change value
    return (.ok result, b)
  | .error e => pure (.error e, a)

/-- To make an attempt changes nothing; where it fails, nothing comes after it. -/
theorem on_attempt_bind (attempt : Except ε β) (next : β → Request ε α) (a : Arrangement) :
    ((monadLift attempt : Request ε β) >>= next).on a =
      match attempt with
      | .ok value => (next value).on a
      | .error e => pure (.error e, a) := by
  cases attempt <;> rfl

theorem atomic_of_decided (h : ∀ a, ∃ (γ : Type) (attempt : Except ε γ)
    (change : γ → Logged (α × Arrangement)),
      (request.on a).value = (decided a attempt change).value) :
    request.Atomic := by
  intro a e b hfail
  obtain ⟨γ, attempt, change, hvalue⟩ := h a
  have hdecided := hvalue.symm.trans hfail
  cases attempt with
  | ok value => cases hdecided
  | error e' => exact (Prod.mk.inj hdecided).2.symm

end Request

/-! ## Positions -/

theorem on_set (a : Arrangement) (position : Nat) (selected : Bool) :
    (set position selected).on a =
      Request.decided a (a.selection.set position selected) fun selection =>
        ⟨((), a.withSelection selection),
          [changed "Monitor selection changed" position selected]⟩ := by
  change (monadLift (a.selection.set position selected) >>= fun _ => _ : Request _ _).on a = _
  rw [Request.on_attempt_bind]
  cases a.selection.set position selected <;> rfl

theorem on_toggle (a : Arrangement) (position : Nat) :
    (toggle position).on a =
      Request.decided a (a.selection.toggle position) fun (selected, selection) =>
        ⟨(selected, a.withSelection selection),
          [changed "Monitor selection toggled" position selected]⟩ := by
  change (monadLift (a.selection.toggle position) >>= fun _ => _ : Request _ _).on a = _
  rw [Request.on_attempt_bind]
  cases a.selection.toggle position <;> rfl

/-! ## Selection texts -/

theorem on_applyText (a : Arrangement) (text : String) :
    (applyText text).on a = Request.decided a (SelectionText.parse text) a.apply := by
  unfold applyText
  rw [Request.on_attempt_bind]
  cases SelectionText.parse text <;> rfl

/-- The mode is set once the text is read, and the word for every monitor then sets it again. -/
theorem on_applySettings (a : Arrangement) (settings : FullscreenSettings) :
    (applySettings settings).on a =
      Request.decided a (SelectionText.parse settings.selection) fun said =>
        a.setMode settings.mode >>= (·.apply said) := by
  unfold applySettings
  rw [Request.on_attempt_bind]
  cases SelectionText.parse settings.selection <;> rfl

/-! ## Platform indices -/

/-- The warning about unknown indices comes before the attempt, and changes nothing either. -/
theorem value_on_selectIndices (a : Arrangement) (indices : SortedSet UInt32) :
    ((selectIndices indices).on a).value =
      (Request.decided a (Selection.ofPositions a.catalog.size
        (.ofList (indices.toList.filterMap a.catalog.positionOf?))) fun selection =>
          pure (indices.toList.filter (a.catalog.positionOf? · |>.isNone),
            a.withSelection selection)).value := by
  let unknown := indices.toList.filter (a.catalog.positionOf? · |>.isNone)
  let positions := SortedSet.ofList (indices.toList.filterMap a.catalog.positionOf?)
  let rest : Request ArrangementError (List UInt32) :=
    monadLift (Selection.ofPositions a.catalog.size positions) >>= fun selection => do
      MonadState.set (a.withSelection selection)
      return unknown
  have hrest : (rest.on a).value =
      (Request.decided a (Selection.ofPositions a.catalog.size positions) fun selection =>
        pure (unknown, a.withSelection selection)).value := by
    rw [Request.on_attempt_bind]
    cases Selection.ofPositions a.catalog.size positions <;> rfl
  change ((if unknown.isEmpty then rest
    else Logged.record (unknownIndices unknown) >>= fun _ => rest : Request _ _).on a).value = _
  cases unknown.isEmpty
  · exact hrest
  · exact hrest

/-! ## Failures -/

/-- A request that fails has changed nothing, whatever it asks for. -/
theorem requests_atomic :
    (∀ position selected, (set position selected).Atomic) ∧
      (∀ position, (toggle position).Atomic) ∧
      (∀ text, (applyText text).Atomic) ∧
      (∀ settings, (applySettings settings).Atomic) ∧
      ∀ indices, (selectIndices indices).Atomic := by
  refine ⟨fun position selected => ?_, fun position => ?_, fun text => ?_, fun settings => ?_,
    fun indices => ?_⟩
  · exact Request.atomic_of_decided fun a => ⟨_, _, _, congrArg _ (on_set a position selected)⟩
  · exact Request.atomic_of_decided fun a => ⟨_, _, _, congrArg _ (on_toggle a position)⟩
  · exact Request.atomic_of_decided fun a => ⟨_, _, _, congrArg _ (on_applyText a text)⟩
  · exact Request.atomic_of_decided fun a => ⟨_, _, _, congrArg _ (on_applySettings a settings)⟩
  · exact Request.atomic_of_decided fun a => ⟨_, _, _, value_on_selectIndices a indices⟩

end Multihead.Arrangement
