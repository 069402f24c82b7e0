import Multihead.Proofs.Json.Reading

/-!
# Objects that omit, reorder and extend

The members of an object may come in another order, among members with foreign names, and some of
them may be missing (`Rearranges`). A record whose fields put the known members into it, whichever
of them were read before, is read from any such object as the same (`Rearranges.gives_record`). An
object in which a known member is repeated, a required one is missing, or the value of one is
refused (`Spoiled`) does not have the type of the record, whatever stands behind the flaw
(`Spoiled.gives_record`).
-/

namespace Multihead.Json

/-- The members are those that are known, in any order, each at most once, and any well-formed
values under other names. Those of the known members that are missing may be missing. -/
structure Rearranges (known : List (String × Form)) (MayLack : String → Prop)
    (members : List (String × Form)) : Prop where
  forms : ∀ m ∈ members, m ∈ known ∨ m.1 ∉ known.map (·.1) ∧ m.2 = .any
  once : ((members.map (·.1)).filter (· ∈ known.map (·.1))).Nodup
  lacking : ∀ name ∈ known.map (·.1), name ∉ members.map (·.1) → MayLack name

/-- The members have a flaw, and no other before it: a known one is repeated, one that is required
is missing, or one is refused. The members that fit, and any well-formed values under other names,
may come before the flaw, and anything after it. -/
inductive Spoiled (known required : List String) (Fits Refused : String × Form → Prop) :
    List (String × Form) → Prop
  | repeated {before after : List (String × Form)} {m : String × Form}
    (hbefore : ∀ n ∈ before, Fits n ∨ n.1 ∉ known ∧ n.2 = .any) (hknown : m.1 ∈ known)
    (hrepeated : m.1 ∈ before.map (·.1)) :
    Spoiled known required Fits Refused (before ++ m :: after)
  | lacking {members : List (String × Form)} {name : String}
    (hmembers : ∀ n ∈ members, Fits n ∨ n.1 ∉ known ∧ n.2 = .any) (hrequired : name ∈ required)
    (hlacking : name ∉ members.map (·.1)) : Spoiled known required Fits Refused members
  | refused {before after : List (String × Form)} {m : String × Form}
    (hbefore : ∀ n ∈ before, Fits n ∨ n.1 ∉ known ∧ n.2 = .any) (hrefused : Refused m) :
    Spoiled known required Fits Refused (before ++ m :: after)

variable {α β : Type} {fields : List (Field α)} {m : String × Form}
  {known members : List (String × Form)} {given : List String} {name : String}

/-! ## Members and fields -/

variable (fields) in
/-- A field has the name of the member, and puts what it reads into any record. -/
def Puts (m : String × Form) (put : α → α) : Prop :=
  ∃ field, fields.find? (·.name = m.1) = some field ∧ ∀ r, Gives (field.read r) m.2 (.ok (put r))

variable (fields) in
/-- A field has the name of the member, and its value does not have the type of the field. -/
def Refuses (m : String × Form) : Prop :=
  ∃ field, fields.find? (·.name = m.1) = some field ∧
    ∀ r, Gives (field.read r) m.2 (.error .mismatched)

section Of

variable {presence : Presence} {reader : Reader β} {put : α → β → α}
  (hfield : fields.find? (·.name = m.1) = some (.of m.1 presence reader put))
include hfield

theorem Puts.of {b : β} (h : Gives reader m.2 (.ok b)) : Puts fields m (put · b) :=
  ⟨_, hfield, Field.gives_of h⟩

theorem Refuses.of (h : Gives reader m.2 (.error .mismatched)) : Refuses fields m :=
  ⟨_, hfield, Field.gives_of h⟩

end Of

theorem gives_skip : Gives skip .any (.ok ()) := fun _ _ h => skip_of_wellFormed h

theorem find?_eq_none_of_not_mem (h : name ∉ fields.map (·.name)) :
    fields.find? (·.name = name) = none := by
  rw [List.find?_eq_none]
  intro field hfield hname
  exact h (List.mem_map.2 ⟨field, hfield, of_decide_eq_true hname⟩)

theorem exists_find?_of_mem (h : name ∈ fields.map (·.name)) :
    ∃ field, fields.find? (·.name = name) = some field := by
  obtain ⟨field, hfield, rfl⟩ := List.mem_map.1 h
  exact Option.isSome_iff_exists.1 (List.find?_isSome.2 ⟨field, hfield, decide_eq_true rfl⟩)

/-! ## Members in any order -/

section Rearranged

variable {MayLack : String → Prop} {soFar : List String → α} {a : α}
  (hnames : known.map (·.1) = fields.map (·.name))
  (hknown : ∀ m ∈ known, ∃ put, Puts fields m put ∧
    ∀ given, put (soFar given) = soFar (m.1 :: given))
  (hdone : ∀ given, (∀ name ∈ known.map (·.1), name ∉ given → MayLack name) →
    complete fields given = true ∧ soFar given = a)
include hnames hknown hdone

/-- The record holds what was read so far, whatever the order, until nothing is missing. -/
theorem fills_rearranged (hforms : ∀ m ∈ members, m ∈ known ∨ m.1 ∉ known.map (·.1) ∧ m.2 = .any)
    (honce : ((members.map (·.1)).filter (· ∈ known.map (·.1))).Nodup)
    (hgiven : ∀ m ∈ members, m.1 ∈ known.map (·.1) → m.1 ∉ given)
    (hlacking : ∀ name ∈ known.map (·.1), name ∉ given → name ∉ members.map (·.1) → MayLack name) :
    Fills fields given (soFar given) members (.ok a) := by
  induction members generalizing given with
  | nil =>
    obtain ⟨hcomplete, rfl⟩ := hdone given fun name hname hnew => hlacking name hname hnew nofun
    exact .complete hcomplete
  | cons m members ih =>
    obtain ⟨hm, hforms⟩ := List.forall_mem_cons.1 hforms
    obtain ⟨hnew, hgiven⟩ := List.forall_mem_cons.1 hgiven
    rcases hm with hm | ⟨hm, hany⟩
    · have hname : m.1 ∈ known.map (·.1) := List.mem_map_of_mem hm
      obtain ⟨put, ⟨field, hfield, hread⟩, hput⟩ := hknown m hm
      have hread := hread (soFar given)
      rw [hput] at hread
      simp only [List.map_cons, List.filter_cons, hname, decide_true, if_true,
        List.nodup_cons] at honce
      refine .known hfield (hnew hname) hread (ih hforms honce.2 ?_ ?_)
      · intro n hn hn' hmem
        rcases List.mem_cons.1 hmem with heq | hmem
        · refine honce.1 (List.mem_filter.2 ⟨?_, decide_eq_true hname⟩)
          exact heq ▸ List.mem_map_of_mem hn
        · exact hgiven n hn hn' hmem
      · intro name hname hnew' hmissing
        rw [List.mem_cons, not_or] at hnew'
        exact hlacking name hname hnew'.2 (by simp [hnew'.1, hmissing])
    · have hforeign : fields.find? (·.name = m.1) = none :=
        find?_eq_none_of_not_mem (hnames ▸ hm)
      simp only [List.map_cons, List.filter_cons, hm, decide_false, Bool.false_eq_true,
        if_false] at honce
      refine .foreign hforeign (hany ▸ gives_skip) (ih hforms honce hgiven ?_)
      intro name hname hnew' hmissing
      refine hlacking name hname hnew' ?_
      rw [List.map_cons, List.mem_cons, not_or]
      exact ⟨fun heq => hm (heq ▸ hname), hmissing⟩

/-- A record is read from an object of its members in any order. -/
theorem Rearranges.gives_record :
    Gives (record (soFar []) fields) (.object (Rearranges known MayLack)) (.ok a) := by
  refine Json.gives_record fun members h => ?_
  refine fills_rearranged hnames hknown hdone h.forms h.once (fun _ _ _ => nofun) ?_
  exact fun name hname _ hmissing => h.lacking name hname hmissing

end Rearranged

/-- All of the members in their own order. -/
theorem Rearranges.refl {MayLack : String → Prop} (hdistinct : (known.map (·.1)).Nodup) :
    Rearranges known MayLack known where
  forms _ hm := .inl hm
  once := hdistinct.filter _
  lacking _ hname hmissing := absurd hname hmissing

/-! ## Flaws -/

section Spoiled

variable {Fits Refused : String × Form → Prop} (hfits : ∀ m, Fits m → ∃ put, Puts fields m put)
include hfits

/-- What comes after members without a flaw is refused if it is refused after all of them. One of
them may itself be given already, and is refused then. -/
theorem fills_append {before : List (String × Form)} {r : α}
    (hbefore : ∀ n ∈ before, Fits n ∨ n.1 ∉ fields.map (·.name) ∧ n.2 = .any)
    (hmembers : ∀ given' r,
      (∀ name ∈ fields.map (·.name), name ∈ given' ↔ name ∈ given ∨ name ∈ before.map (·.1)) →
        Fills fields given' r members (.error .mismatched)) :
    Fills fields given r (before ++ members) (.error .mismatched) := by
  induction before generalizing given r with
  | nil => exact hmembers given r fun name _ => by simp
  | cons n before ih =>
    obtain ⟨hn, hbefore⟩ := List.forall_mem_cons.1 hbefore
    rcases hn with hn | ⟨hn, hany⟩
    · obtain ⟨put, field, hfield, hread⟩ := hfits n hn
      by_cases hgiven : n.1 ∈ given
      · exact .repeated hfield hgiven
      · refine .known hfield hgiven (hread r) (ih hbefore fun given' r hgiven' => ?_)
        refine hmembers given' r fun name hname => (hgiven' name hname).trans ?_
        rw [List.mem_cons, List.map_cons, List.mem_cons, or_assoc, or_left_comm]
    · have hforeign := find?_eq_none_of_not_mem hn
      refine .foreign hforeign (hany ▸ gives_skip) (ih hbefore fun given' r hgiven' => ?_)
      refine hmembers given' r fun name hname => (hgiven' name hname).trans ?_
      have hother : name ≠ n.1 := fun heq => hn (heq ▸ hname)
      simp only [List.map_cons, List.mem_cons, hother, false_or]

/-- A record is not read from an object whose members have a flaw. -/
theorem Spoiled.gives_record {required : List String} {initial : α}
    (hrequired : ∀ name ∈ required, ∃ field ∈ fields, field.name = name ∧
      field.presence = .required)
    (hrefused : ∀ m, Refused m → Refuses fields m) :
    Gives (record initial fields)
      (.object (Spoiled (fields.map (·.name)) required Fits Refused)) (.error .mismatched) := by
  refine Json.gives_record fun members h => ?_
  cases h with
  | repeated hbefore hknown hrepeated =>
    refine fills_append hfits hbefore fun given' r hgiven => ?_
    obtain ⟨field, hfield⟩ := exists_find?_of_mem hknown
    exact .repeated hfield ((hgiven _ hknown).2 (.inr hrepeated))
  | lacking hmembers hname hlacking =>
    obtain ⟨field, hfield, rfl, hpresence⟩ := hrequired _ hname
    rw [← List.append_nil members]
    refine fills_append hfits hmembers fun given' r hgiven => .missing ?_
    have hmissing : field.name ∉ given' := fun hmem =>
      ((hgiven _ (List.mem_map_of_mem hfield)).1 hmem).elim nofun hlacking
    exact List.all_eq_false.2 ⟨field, hfield, by simp [hpresence, hmissing]⟩
  | @refused before after m hbefore hrefused' =>
    refine fills_append hfits hbefore fun given' r _ => ?_
    obtain ⟨field, hfield, hread⟩ := hrefused m hrefused'
    -- A refused member may be given already, and then its value is not looked at.
    by_cases hgiven : m.1 ∈ given'
    · exact .repeated hfield hgiven
    · exact .refused hfield hgiven (hread r)

end Spoiled

end Multihead.Json
