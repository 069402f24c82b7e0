import Mathlib.Data.List.DropRight
import Mathlib.Data.List.Forall2
import Multihead.Json.Value
import Multihead.Proofs.Text.Decimal

/-!
# Written forms of a value

A value has many written forms: spaces may stand before every token. `Written v text rest` says that
`text` begins with a form of `v` and goes on with `rest`. The forms of a list and of an object are
given by what follows the bracket. Main statements: what is written in compact form and what is
written in indented form are forms of the value (`isForm_compact`, `isForm_indented`).
-/

namespace Multihead.Json

/-- Whether a number ends before a text, so that no character of the text belongs to it. -/
def EndsNumber (text : List Char) : Prop :=
  ∀ c ∈ text.head?, c.isDigit = false ∧ c ≠ '.' ∧ c ≠ 'e' ∧ c ≠ 'E'

mutual

/-- A text begins with a value, after any spaces, and goes on with `rest`. -/
inductive Written : Value → List Char → List Char → Prop
  | null {text rest : List Char} (htoken : skipSpace text = "null".toList ++ rest) :
    Written .null text rest
  | bool {b : Bool} {text rest : List Char} (htoken : skipSpace text = Value.boolText b ++ rest) :
    Written (.bool b) text rest
  | integer {n : Int} {text rest : List Char}
    (htoken : skipSpace text = Value.integerText n ++ rest) (hend : EndsNumber rest) :
    Written (.integer n) text rest
  | text {s : String} {text rest : List Char} (htoken : skipSpace text = writeText s ++ rest) :
    Written (.text s) text rest
  | array {elements : List Value} {text inner rest : List Char}
    (htoken : skipSpace text = '[' :: inner) (helements : WrittenElements elements inner rest) :
    Written (.array elements) text rest
  | object {members : List (String × Value)} {text inner rest : List Char}
    (htoken : skipSpace text = '\x7b' :: inner) (hmembers : WrittenMembers members inner rest) :
    Written (.object members) text rest

/-- The elements of a list after its bracket, and the end of the list. -/
inductive WrittenElements : List Value → List Char → List Char → Prop
  | nil {text rest : List Char} (hclose : skipSpace text = ']' :: rest) :
    WrittenElements [] text rest
  | cons {v : Value} {elements : List Value} {text after rest : List Char}
    (hvalue : Written v text after) (hnext : NextElements elements after rest) :
    WrittenElements (v :: elements) text rest

/-- The elements of a list after an element, and the end of the list. -/
inductive NextElements : List Value → List Char → List Char → Prop
  | nil {text rest : List Char} (hclose : skipSpace text = ']' :: rest) : NextElements [] text rest
  | cons {v : Value} {elements : List Value} {text inner after rest : List Char}
    (hcomma : skipSpace text = ',' :: inner) (hvalue : Written v inner after)
    (hnext : NextElements elements after rest) : NextElements (v :: elements) text rest

/-- A member of an object: its name, a colon and its value. -/
inductive WrittenMember : String → Value → List Char → List Char → Prop
  | mk {name : String} {v : Value} {text colon inner rest : List Char}
    (hname : skipSpace text = writeText name ++ colon) (hcolon : skipSpace colon = ':' :: inner)
    (hvalue : Written v inner rest) : WrittenMember name v text rest

/-- The members of an object after its bracket, and the end of the object. -/
inductive WrittenMembers : List (String × Value) → List Char → List Char → Prop
  | nil {text rest : List Char} (hclose : skipSpace text = '\x7d' :: rest) :
    WrittenMembers [] text rest
  | cons {name : String} {v : Value} {members : List (String × Value)}
    {text after rest : List Char} (hmember : WrittenMember name v text after)
    (hnext : NextMembers members after rest) : WrittenMembers ((name, v) :: members) text rest

/-- The members of an object after a member, and the end of the object. -/
inductive NextMembers : List (String × Value) → List Char → List Char → Prop
  | nil {text rest : List Char} (hclose : skipSpace text = '\x7d' :: rest) :
    NextMembers [] text rest
  | cons {name : String} {v : Value} {members : List (String × Value)}
    {text inner after rest : List Char} (hcomma : skipSpace text = ',' :: inner)
    (hmember : WrittenMember name v inner after) (hnext : NextMembers members after rest) :
    NextMembers ((name, v) :: members) text rest

end

/-! ## Length -/

theorem length_le_of_skipSpace (token : List Char) {text rest : List Char}
    (h : skipSpace text = token ++ rest) : token.length + rest.length ≤ text.length := by
  have hle : (skipSpace text).length ≤ text.length := (List.dropWhile_sublist isSpace).length_le
  rwa [h, List.length_append] at hle

mutual

theorem Written.length_le {v : Value} {text rest : List Char} :
    Written v text rest → rest.length ≤ text.length
  | .null htoken | .bool htoken | .integer htoken _ | .text htoken => by
    have := length_le_of_skipSpace _ htoken
    omega
  | .array htoken helements => by
    have := length_le_of_skipSpace ['['] htoken
    have := helements.length_le
    omega
  | .object htoken hmembers => by
    have := length_le_of_skipSpace ['\x7b'] htoken
    have := hmembers.length_le
    omega

theorem WrittenElements.length_le {elements : List Value} {text rest : List Char} :
    WrittenElements elements text rest → rest.length ≤ text.length
  | .nil hclose => by
    have := length_le_of_skipSpace [']'] hclose
    omega
  | .cons hvalue hnext => by
    have := hvalue.length_le
    have := hnext.length_le
    omega

/-- Every element after the first one has its comma, and the list has its end. -/
theorem NextElements.length_le {elements : List Value} {text rest : List Char} :
    NextElements elements text rest → elements.length + rest.length < text.length
  | .nil hclose => by
    have := length_le_of_skipSpace [']'] hclose
    simp only [List.length_nil, List.length_singleton] at this ⊢
    omega
  | .cons hcomma hvalue hnext => by
    have := length_le_of_skipSpace [','] hcomma
    have := hvalue.length_le
    have := hnext.length_le
    simp only [List.length_cons, List.length_nil] at *
    omega

theorem WrittenMember.length_le {name : String} {v : Value} {text rest : List Char} :
    WrittenMember name v text rest → rest.length ≤ text.length
  | .mk hname hcolon hvalue => by
    have := length_le_of_skipSpace _ hname
    have := length_le_of_skipSpace [':'] hcolon
    have := hvalue.length_le
    omega

theorem WrittenMembers.length_le {members : List (String × Value)} {text rest : List Char} :
    WrittenMembers members text rest → rest.length ≤ text.length
  | .nil hclose => by
    have := length_le_of_skipSpace ['\x7d'] hclose
    omega
  | .cons hmember hnext => by
    have := hmember.length_le
    have := hnext.length_le
    omega

/-- Every member after the first one has its comma, and the object has its end. -/
theorem NextMembers.length_le {members : List (String × Value)} {text rest : List Char} :
    NextMembers members text rest → members.length + rest.length < text.length
  | .nil hclose => by
    have := length_le_of_skipSpace ['\x7d'] hclose
    simp only [List.length_nil, List.length_singleton] at this ⊢
    omega
  | .cons hcomma hmember hnext => by
    have := length_le_of_skipSpace [','] hcomma
    have := hmember.length_le
    have := hnext.length_le
    simp only [List.length_cons, List.length_nil] at *
    omega

end

/-! ## Spaces before a form -/

/-- A form begins with its first token. -/
theorem Written.congr {v : Value} {text text' rest : List Char}
    (hskip : skipSpace text' = skipSpace text) (h : Written v text rest) :
    Written v text' rest := by
  cases h with
  | null htoken => exact .null (hskip.trans htoken)
  | bool htoken => exact .bool (hskip.trans htoken)
  | integer htoken hend => exact .integer (hskip.trans htoken) hend
  | text htoken => exact .text (hskip.trans htoken)
  | array htoken helements => exact .array (hskip.trans htoken) helements
  | object htoken hmembers => exact .object (hskip.trans htoken) hmembers

theorem Written.spaces {v : Value} {spaces text rest : List Char}
    (hspaces : ∀ c ∈ spaces, isSpace c) (h : Written v text rest) :
    Written v (spaces ++ text) rest :=
  h.congr (skipSpace_append hspaces text)

theorem Written.atToken {v : Value} {text rest : List Char} (h : Written v text rest) :
    Written v (skipSpace text) rest :=
  h.congr (List.dropWhile_idempotent isSpace text)

theorem WrittenMember.spaces {name : String} {v : Value} {spaces text rest : List Char}
    (hspaces : ∀ c ∈ spaces, isSpace c) (h : WrittenMember name v text rest) :
    WrittenMember name v (spaces ++ text) rest := by
  cases h with
  | mk hname hcolon hvalue => exact .mk ((skipSpace_append hspaces _).trans hname) hcolon hvalue

theorem skipSpace_spaces_cons {spaces : List Char} (hspaces : ∀ c ∈ spaces, isSpace c) {c : Char}
    (hc : isSpace c = false) (rest : List Char) : skipSpace (spaces ++ c :: rest) = c :: rest := by
  rw [skipSpace_append hspaces, skipSpace_cons_of_not hc]

/-! ## Forms -/

/-- A form of a value: whatever ends a number may follow it. -/
def IsForm (v : Value) (form : List Char) : Prop :=
  ∀ rest, EndsNumber rest → Written v (form ++ rest) rest

def IsMemberForm (member : String × Value) (form : List Char) : Prop :=
  ∀ rest, EndsNumber rest → WrittenMember member.1 member.2 (form ++ rest) rest

/-- A form that is a text of its own. -/
theorem IsForm.written {v : Value} {form : List Char} (h : IsForm v form) :
    Written v (String.ofList form).toList [] := by
  have hwritten := h [] nofun
  rwa [List.append_nil, ← String.toList_ofList (l := form)] at hwritten

/-- A member is its name, a colon and a form of its value, with or without spaces between them. -/
theorem IsForm.member {v : Value} {form spaces : List Char} (hspaces : ∀ c ∈ spaces, isSpace c)
    (h : IsForm v form) (name : String) :
    IsMemberForm (name, v) (writeText name ++ ':' :: (spaces ++ form)) := by
  intro rest hrest
  simp only [List.append_assoc, List.cons_append]
  exact .mk rfl rfl ((h rest hrest).spaces hspaces)

theorem endsNumber_cons {c : Char} (hc : c.isDigit = false ∧ c ≠ '.' ∧ c ≠ 'e' ∧ c ≠ 'E')
    (text : List Char) : EndsNumber (c :: text) := by
  rintro d hd
  obtain rfl : c = d := by simpa using hd
  exact hc

theorem isSpace_of_isDigit {c : Char} (h : c.isDigit = true) : isSpace c = false := by
  rw [← Bool.not_eq_true]
  intro hspace
  simp only [isSpace, Bool.or_eq_true, decide_eq_true_eq] at hspace
  rcases hspace with ((rfl | rfl) | rfl) | rfl <;> exact absurd h (by decide)

theorem integerText_negSucc (n : Nat) :
    Value.integerText (.negSucc n) = '-' :: (toString (n + 1)).toList := by
  change ("-" ++ Nat.repr (n + 1)).toList = _
  rw [String.toList_append]
  rfl

/-- An integer begins with a digit or its sign. -/
theorem exists_integerText_eq_cons (n : Int) :
    ∃ c digits, Value.integerText n = c :: digits ∧ (c = '-' ∨ c.isDigit = true) := by
  cases n with
  | ofNat n =>
    have hdecimal := Text.isDecimal_toString n
    obtain ⟨c, digits, hcons⟩ := List.exists_cons_of_ne_nil hdecimal.nonempty
    exact ⟨c, digits, hcons, .inr (hdecimal.digits c (hcons ▸ List.mem_cons_self))⟩
  | negSucc n => exact ⟨_, _, integerText_negSucc n, .inl rfl⟩

theorem isForm_integer (n : Int) : IsForm (.integer n) (Value.integerText n) := by
  intro rest hrest
  obtain ⟨c, digits, hcons, hc⟩ := exists_integerText_eq_cons n
  refine .integer ?_ hrest
  rw [hcons, List.cons_append]
  apply skipSpace_cons_of_not
  rcases hc with rfl | hdigit
  · rfl
  · exact isSpace_of_isDigit hdigit

theorem isForm_bool (b : Bool) : IsForm (.bool b) (Value.boolText b) := by
  intro rest _
  cases b <;> exact .bool rfl

/-! ## Items between brackets -/

section Items

/-- What follows the first of several items: the others, each after a comma and the spaces `lead`,
then the spaces `final` and the closing bracket. -/
def itemsTail (lead final : List Char) (closing : Char) (rest : List Char) :
    List (List Char) → List Char
  | [] => final ++ closing :: rest
  | item :: items => ',' :: (lead ++ (item ++ itemsTail lead final closing rest items))

variable {lead final : List Char} {closing : Char}

theorem separated_append (rest item : List Char) (items : List (List Char)) :
    Value.separated (',' :: lead) (item :: items) ++ (final ++ closing :: rest) =
      item ++ itemsTail lead final closing rest items := by
  induction items generalizing item with
  | nil => rfl
  | cons next items ih =>
    rw [Value.separated, itemsTail, ← ih]
    simp only [List.append_assoc, List.cons_append]

variable (hlead : ∀ c ∈ lead, isSpace c) (hfinal : ∀ c ∈ final, isSpace c)

include hfinal in
variable (lead) in
theorem endsNumber_itemsTail (hclosing : closing = ']' ∨ closing = '\x7d') (rest : List Char)
    (items : List (List Char)) : EndsNumber (itemsTail lead final closing rest items) := by
  cases items with
  | cons item items => exact endsNumber_cons (by decide) _
  | nil =>
    cases final with
    | nil =>
      apply endsNumber_cons
      rcases hclosing with rfl | rfl <;> decide
    | cons c final =>
      have hspace := hfinal c List.mem_cons_self
      simp only [isSpace, Bool.or_eq_true, decide_eq_true_eq] at hspace
      apply endsNumber_cons
      rcases hspace with ((rfl | rfl) | rfl) | rfl <;> decide

include hlead hfinal in
theorem nextElements_items {elements : List Value} {forms : List (List Char)}
    (h : List.Forall₂ IsForm elements forms) (rest : List Char) :
    NextElements elements (itemsTail lead final ']' rest forms) rest := by
  induction h with
  | nil => exact .nil (skipSpace_spaces_cons hfinal rfl rest)
  | cons hform _ ih =>
    refine .cons rfl ((hform _ ?_).spaces hlead) ih
    exact endsNumber_itemsTail lead hfinal (.inl rfl) rest _

include hlead hfinal in
theorem nextMembers_items {members : List (String × Value)} {forms : List (List Char)}
    (h : List.Forall₂ IsMemberForm members forms) (rest : List Char) :
    NextMembers members (itemsTail lead final '\x7d' rest forms) rest := by
  induction h with
  | nil => exact .nil (skipSpace_spaces_cons hfinal rfl rest)
  | cons hform _ ih =>
    refine .cons rfl ((hform _ ?_).spaces hlead) ih
    exact endsNumber_itemsTail lead hfinal (.inr rfl) rest _

include hlead hfinal in
/-- A list is its elements' forms between brackets. -/
theorem isForm_array {v : Value} {elements : List Value} {form : List Char}
    {forms : List (List Char)} (h : List.Forall₂ IsForm (v :: elements) (form :: forms)) :
    IsForm (.array (v :: elements))
      ('[' :: (lead ++ (Value.separated (',' :: lead) (form :: forms) ++ (final ++ [']'])))) := by
  intro rest _
  obtain ⟨hform, hforms⟩ := List.forall₂_cons.1 h
  have hend := endsNumber_itemsTail lead hfinal (.inl rfl) rest forms
  simp only [List.cons_append, List.append_assoc, List.nil_append]
  rw [separated_append]
  exact .array rfl
    (.cons ((hform _ hend).spaces hlead) (nextElements_items hlead hfinal hforms rest))

include hlead hfinal in
/-- An object is its members' forms between brackets. -/
theorem isForm_object {member : String × Value} {members : List (String × Value)}
    {form : List Char} {forms : List (List Char)}
    (h : List.Forall₂ IsMemberForm (member :: members) (form :: forms)) :
    IsForm (.object (member :: members)) ('\x7b' ::
      (lead ++ (Value.separated (',' :: lead) (form :: forms) ++ (final ++ ['\x7d'])))) := by
  intro rest _
  obtain ⟨hform, hforms⟩ := List.forall₂_cons.1 h
  have hend := endsNumber_itemsTail lead hfinal (.inr rfl) rest forms
  simp only [List.cons_append, List.append_assoc, List.nil_append]
  rw [separated_append]
  exact .object rfl
    (.cons ((hform _ hend).spaces hlead) (nextMembers_items hlead hfinal hforms rest))

end Items

/-! ## The compact form -/

theorem isForm_compactArray {elements : List Value} {forms : List (List Char)}
    (h : List.Forall₂ IsForm elements forms) :
    IsForm (.array elements) ('[' :: Value.separated [','] forms ++ [']']) := by
  cases h with
  | nil =>
    intro rest _
    exact .array rfl (.nil rfl)
  | cons hform hforms =>
    have hspaces : ∀ c ∈ ([] : List Char), isSpace c := nofun
    exact isForm_array hspaces hspaces (.cons hform hforms)

theorem isForm_compactObject {members : List (String × Value)} {forms : List (List Char)}
    (h : List.Forall₂ IsMemberForm members forms) :
    IsForm (.object members) ('\x7b' :: Value.separated [','] forms ++ ['\x7d']) := by
  cases h with
  | nil =>
    intro rest _
    exact .object rfl (.nil rfl)
  | cons hform hforms =>
    have hspaces : ∀ c ∈ ([] : List Char), isSpace c := nofun
    exact isForm_object hspaces hspaces (.cons hform hforms)

mutual

theorem isForm_compact : (v : Value) → IsForm v v.compact
  | .null => fun _ _ => .null rfl
  | .bool b => isForm_bool b
  | .integer n => isForm_integer n
  | .text _ => fun _ _ => .text rfl
  | .array elements => isForm_compactArray (forms_compact elements)
  | .object members => isForm_compactObject (memberForms_compact members)

theorem forms_compact : (elements : List Value) →
    List.Forall₂ IsForm elements (Value.compactElements elements)
  | [] => .nil
  | v :: elements => .cons (isForm_compact v) (forms_compact elements)

theorem memberForms_compact : (members : List (String × Value)) →
    List.Forall₂ IsMemberForm members (Value.compactMembers members)
  | [] => .nil
  | (name, v) :: members => by
    have hnone : ∀ c ∈ ([] : List Char), isSpace c := nofun
    exact .cons ((isForm_compact v).member hnone name) (memberForms_compact members)

end

/-! ## The indented form -/

theorem isSpace_of_mem_lineStart {depth : Nat} : ∀ c ∈ Value.lineStart depth, isSpace c := by
  intro c hc
  rcases List.mem_cons.1 hc with rfl | hc
  · rfl
  · rw [List.eq_of_mem_replicate hc]
    rfl

theorem block_cons (depth : Nat) (opening closing : Char) (item : List Char)
    (items : List (List Char)) :
    Value.block depth opening closing (item :: items) =
      opening :: (Value.lineStart (depth + 1) ++
        (Value.separated (',' :: Value.lineStart (depth + 1)) (item :: items) ++
          (Value.lineStart depth ++ [closing]))) := by
  rw [Value.block, if_neg (by simp)]
  simp only [List.append_assoc, List.cons_append]

theorem isForm_arrayBlock (depth : Nat) {elements : List Value} {forms : List (List Char)}
    (h : List.Forall₂ IsForm elements forms) :
    IsForm (.array elements) (Value.block depth '[' ']' forms) := by
  cases h with
  | nil =>
    intro rest _
    exact .array rfl (.nil rfl)
  | cons hform hforms =>
    rw [block_cons]
    exact isForm_array isSpace_of_mem_lineStart isSpace_of_mem_lineStart (.cons hform hforms)

theorem isForm_objectBlock (depth : Nat) {members : List (String × Value)}
    {forms : List (List Char)} (h : List.Forall₂ IsMemberForm members forms) :
    IsForm (.object members) (Value.block depth '\x7b' '\x7d' forms) := by
  cases h with
  | nil =>
    intro rest _
    exact .object rfl (.nil rfl)
  | cons hform hforms =>
    rw [block_cons]
    exact isForm_object isSpace_of_mem_lineStart isSpace_of_mem_lineStart (.cons hform hforms)

mutual

theorem isForm_indented (depth : Nat) : (v : Value) → IsForm v (v.indented depth)
  | .null => fun _ _ => .null rfl
  | .bool b => isForm_bool b
  | .integer n => isForm_integer n
  | .text _ => fun _ _ => .text rfl
  | .array elements => isForm_arrayBlock depth (forms_indented (depth + 1) elements)
  | .object members => isForm_objectBlock depth (memberForms_indented (depth + 1) members)

theorem forms_indented (depth : Nat) : (elements : List Value) →
    List.Forall₂ IsForm elements (Value.indentedElements depth elements)
  | [] => .nil
  | v :: elements => .cons (isForm_indented depth v) (forms_indented depth elements)

theorem memberForms_indented (depth : Nat) : (members : List (String × Value)) →
    List.Forall₂ IsMemberForm members (Value.indentedMembers depth members)
  | [] => .nil
  | (name, v) :: members => by
    have hspace : ∀ c ∈ [' '], isSpace c := List.forall_mem_singleton.2 rfl
    exact .cons ((isForm_indented depth v).member hspace name) (memberForms_indented depth members)

end

end Multihead.Json
