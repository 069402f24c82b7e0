/-!
# Results that may be errors

When a result that was put together from others is a success, so were these. One result follows
another if it is a success whenever the other one is, with a value that is related to the other's
(`Follows`); that composes along the steps of both (`Follows.bind`).
-/

namespace Multihead

variable {ε ε' α β : Type} {result : Except ε α} {next : α → Except ε β} {value : β} {a : α}

theorem bind_eq_ok_iff :
    (result >>= next) = .ok value ↔ ∃ a, result = .ok a ∧ next a = .ok value := by
  cases result with
  | error e => exact iff_of_false nofun nofun
  | ok a => exact ⟨fun h => ⟨a, rfl, h⟩, fun ⟨_, rfl, h⟩ => h⟩

@[simp] theorem mapError_ok (f : ε → ε') (a : α) : (Except.ok a).mapError f = .ok a := rfl

@[simp] theorem mapError_error (f : ε → ε') (e : ε) :
    (Except.error e : Except ε α).mapError f = .error (f e) := rfl

theorem mapError_eq_ok_iff {f : ε → ε'} : result.mapError f = .ok a ↔ result = .ok a := by
  cases result with
  | error e => exact iff_of_false nofun nofun
  | ok b => exact ⟨fun h => congrArg _ (Except.ok.inj h), fun h => congrArg _ (Except.ok.inj h)⟩

theorem map_eq_ok_iff {f : α → β} :
    result.map f = .ok value ↔ ∃ a, result = .ok a ∧ f a = value := by
  cases result with
  | error e => exact iff_of_false nofun nofun
  | ok a => exact ⟨fun h => ⟨a, rfl, Except.ok.inj h⟩, fun ⟨_, rfl, h⟩ => congrArg _ h⟩

theorem toOption_eq_some_iff : result.toOption = some a ↔ result = .ok a := by
  cases result with
  | error e => exact iff_of_false nofun nofun
  | ok b => exact ⟨fun h => congrArg _ (Option.some.inj h), fun h => congrArg _ (Except.ok.inj h)⟩

/-! ## Results that follow others -/

section Follows

variable {γ δ : Type} {related : α → β → Prop} {related' : γ → δ → Prop} {b : β}
  {second : Except ε β} {more : α → Except ε γ} {more' : β → Except ε δ}

/-- Where the second result is a success, so is the first, and their values are related. -/
def Follows (related : α → β → Prop) (first : Except ε α) (second : Except ε β) : Prop :=
  ∀ b, second = .ok b → ∃ a, first = .ok a ∧ related a b

theorem follows_error (first : Except ε α) (e : ε) : Follows related first (.error e) := nofun

theorem follows_ok (h : related a b) : Follows related (.ok a : Except ε α) (.ok b) := by
  rintro _ ⟨⟩
  exact ⟨a, rfl, h⟩

theorem follows_self (result : Except ε α) : Follows Eq result result := fun a h => ⟨a, h, rfl⟩

theorem follows_map (result : Except ε α) (f : α → β) :
    Follows (fun a b => b = f a) result (result.map f) := by
  intro b h
  obtain ⟨a, ha, hb⟩ := map_eq_ok_iff.1 h
  exact ⟨a, ha, hb.symm⟩

theorem Follows.mono {weaker : α → β → Prop} (h : Follows related result second)
    (hweaker : ∀ a b, related a b → weaker a b) : Follows weaker result second := by
  intro b hb
  obtain ⟨a, ha, hrelated⟩ := h b hb
  exact ⟨a, ha, hweaker a b hrelated⟩

theorem Follows.bind (h : Follows related result second)
    (hmore : ∀ a b, related a b → Follows related' (more a) (more' b)) :
    Follows related' (result >>= more) (second >>= more') := by
  intro d hd
  obtain ⟨b, hb, hd⟩ := bind_eq_ok_iff.1 hd
  obtain ⟨a, ha, hrelated⟩ := h b hb
  obtain ⟨c, hc, hrelated'⟩ := hmore a b hrelated d hd
  exact ⟨c, bind_eq_ok_iff.2 ⟨a, ha, hc⟩, hrelated'⟩

end Follows

end Multihead
