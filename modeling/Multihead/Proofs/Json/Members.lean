import Multihead.Json.Record
import Multihead.Proofs.Json.Grammar

/-!
# Members in any order

A form is a kind of written value: whether a text begins with such a value, and what comes after it
(`Form`). The forms of an object are given by the names and forms of its members, which are spelled
in any way and may be of any order and number. What the reader of a record makes of such members,
one after the other, is the relation `Fills`: a known member is read into the record, a foreign one
is passed over, and what is repeated, missing or of another type refuses the whole. It is decided by
the names and forms alone (`gives_record`).
-/

namespace Multihead.Json

/-- A kind of written value: whether a text begins with such a value and goes on with a rest. -/
structure Form where
  Begins : List Char → List Char → Prop
  length_le : ∀ {text rest : List Char}, Begins text rest → rest.length ≤ text.length

namespace Form

/-! ## Forms of scalars -/

/-- Certain letters, after any spaces. -/
def word (letters : List Char) : Form where
  Begins text rest := skipSpace text = letters ++ rest
  length_le h := by
    have := length_le_of_skipSpace letters h
    omega

/-- A text in any spelling. -/
def text (s : String) : Form where
  Begins text rest := ∃ body, Spells body s.toList ∧ skipSpace text = '"' :: (body ++ '"' :: rest)
  length_le := by
    rintro text rest ⟨body, -, htoken⟩
    have := length_lt_of_skipSpace htoken
    rw [List.length_append, List.length_cons] at this
    omega

def bool (b : Bool) : Form := word (Value.boolText b)

def null : Form := word "null".toList

def ofText? : Option String → Form
  | some s => text s
  | none => null

/-- Any well-formed value. -/
def any : Form := ⟨WellFormed .value, fun h => Nat.le_of_lt h.length_lt⟩

/-! ## Forms of objects -/

/-- A member of an object: its name in any spelling, a colon and its value. -/
inductive Member (name : String) (form : Form) : List Char → List Char → Prop
  | mk {text colon inner rest : List Char} (hname : (Form.text name).Begins text colon)
    (hcolon : skipSpace colon = ':' :: inner) (hvalue : form.Begins inner rest) :
    Member name form text rest

/-- The members of an object after a member, and the end of the object. -/
inductive MoreMembers : List (String × Form) → List Char → List Char → Prop
  | close {text rest : List Char} (hclose : skipSpace text = '\x7d' :: rest) :
    MoreMembers [] text rest
  | next {name : String} {form : Form} {members : List (String × Form)}
    {text inner after rest : List Char} (hcomma : skipSpace text = ',' :: inner)
    (hmember : Member name form inner after) (hmore : MoreMembers members after rest) :
    MoreMembers ((name, form) :: members) text rest

/-- The members of an object after its bracket, and the end of the object. -/
inductive Members : List (String × Form) → List Char → List Char → Prop
  | none {text rest : List Char} (hclose : skipSpace text = '\x7d' :: rest) : Members [] text rest
  | first {name : String} {form : Form} {members : List (String × Form)}
    {text after rest : List Char} (hmember : Member name form text after)
    (hmore : MoreMembers members after rest) : Members ((name, form) :: members) text rest

variable {name : String} {form : Form} {members : List (String × Form)} {text rest : List Char}

theorem Member.length_le (h : Member name form text rest) : rest.length ≤ text.length := by
  obtain ⟨hname, hcolon, hvalue⟩ := h
  have := (Form.text name).length_le hname
  have := length_lt_of_skipSpace hcolon
  have := form.length_le hvalue
  omega

/-- Every member after the first one has its comma, and the object has its end. -/
theorem MoreMembers.length_lt (h : MoreMembers members text rest) :
    members.length + rest.length < text.length := by
  induction h with
  | close hclose =>
    have := length_lt_of_skipSpace hclose
    rw [List.length_nil]
    omega
  | next hcomma hmember _ ih =>
    have := length_lt_of_skipSpace hcomma
    have := hmember.length_le
    rw [List.length_cons]
    omega

theorem Members.length_le (h : Members members text rest) : rest.length ≤ text.length := by
  cases h with
  | none hclose => exact Nat.le_of_lt (length_lt_of_skipSpace hclose)
  | first hmember hmore =>
    have := hmember.length_le
    have := hmore.length_lt
    omega

/-- The form has everything that the other one has. -/
def Includes (form other : Form) : Prop :=
  ∀ text rest, other.Begins text rest → form.Begins text rest

section Includes

variable {members' : List (String × Form)}
  (hforms : List.Forall₂ (fun m m' => m.1 = m'.1 ∧ m'.2.Includes m.2) members members')
include hforms

theorem MoreMembers.mono (h : MoreMembers members text rest) : MoreMembers members' text rest := by
  induction h generalizing members' with
  | close hclose =>
    cases hforms
    exact .close hclose
  | next hcomma hmember _ ih =>
    obtain _ | ⟨⟨rfl, hincludes⟩, hforms⟩ := hforms
    obtain ⟨hname, hcolon, hvalue⟩ := hmember
    exact .next hcomma (.mk hname hcolon (hincludes _ _ hvalue)) (ih hforms)

theorem Members.mono (h : Members members text rest) : Members members' text rest := by
  cases h with
  | none hclose =>
    cases hforms
    exact .none hclose
  | first hmember hmore =>
    obtain _ | ⟨⟨rfl, hincludes⟩, hforms⟩ := hforms
    obtain ⟨hname, hcolon, hvalue⟩ := hmember
    exact .first (.mk hname hcolon (hincludes _ _ hvalue)) (hmore.mono hforms)

end Includes

/-- An object whose members are as described. -/
def object (Described : List (String × Form) → Prop) : Form where
  Begins text rest := ∃ members inner, Described members ∧ skipSpace text = '\x7b' :: inner ∧
    Members members inner rest
  length_le := by
    rintro text rest ⟨members, inner, -, htoken, hmembers⟩
    have := length_lt_of_skipSpace htoken
    have := hmembers.length_le
    omega

end Form

/-! ## What a reader makes of a form -/

variable {α β : Type}

/-- Whatever text begins with the form, the reader has one result, and it leaves the rest. -/
def Gives (reader : Reader α) (form : Form) (result : Except Fault α) : Prop :=
  ∀ text rest, form.Begins text rest → reader text = result.map (·, rest)

/-- A text that holds such a value, with nothing but spaces after it. -/
theorem Gives.parse {reader : Reader α} {form : Form} {a : α} (h : Gives reader form (.ok a))
    {text : String} {rest : List Char} (hbegins : form.Begins text.toList rest)
    (hrest : skipSpace rest = []) : Json.parse reader text = .ok a := by
  simp only [Json.parse, h _ _ hbegins, bind, Except.bind, Except.map, hrest, List.isEmpty_nil,
    if_true]

/-- What is refused is refused whatever comes after it. -/
theorem Gives.parse_error {reader : Reader α} {form : Form} {fault : Fault}
    (h : Gives reader form (.error fault)) {text : String} {rest : List Char}
    (hbegins : form.Begins text.toList rest) : Json.parse reader text = .error fault := by
  simp only [Json.parse, h _ _ hbegins, bind, Except.bind, Except.map]

section Scalars

variable {s : String} {text rest : List Char}

theorem textBody_of_begins (h : (Form.text s).Begins text rest) :
    ∃ inner, skipSpace text = '"' :: inner ∧ textBody inner = .ok (s, rest) := by
  obtain ⟨body, hspells, htoken⟩ := h
  exact ⟨_, htoken, textBody_of_spells hspells rest⟩

theorem gives_text (s : String) : Gives Json.text (.text s) (.ok s) := by
  intro text rest h
  obtain ⟨inner, htoken, hbody⟩ := textBody_of_begins h
  simp only [Json.text, htoken]
  exact hbody

theorem gives_name {ofName? : String → Option α} {a : α} (h : ofName? s = some a) :
    Gives (name ofName?) (.text s) (.ok a) := by
  intro text rest hbegins
  obtain ⟨inner, htoken, hbody⟩ := textBody_of_begins hbegins
  simp only [name, htoken, hbody, name.named, h, bind, Except.bind]
  rfl

theorem gives_bool (b : Bool) : Gives bool (.bool b) (.ok b) := by
  intro text rest h
  cases b with
  | false =>
    have hskip : skipSpace text = 'f' :: ("alse".toList ++ rest) := h
    simp only [bool, hskip, word_append, bind, Except.bind]
    rfl
  | true =>
    have hskip : skipSpace text = 't' :: ("rue".toList ++ rest) := h
    simp only [bool, hskip, word_append, bind, Except.bind]
    rfl

theorem gives_ofText? (s : Option String) : Gives (nullable Json.text) (.ofText? s) (.ok s) := by
  intro text rest h
  cases s with
  | none =>
    have hskip : skipSpace text = 'n' :: ("ull".toList ++ rest) := h
    simp only [nullable, hskip, word_append, bind, Except.bind]
    rfl
  | some s =>
    obtain ⟨inner, htoken, hbody⟩ := textBody_of_begins h
    have hread : Json.text ('"' :: inner) = .ok (s, rest) := hbody
    rw [nullable, htoken]
    split
    · next hnull => exact absurd (List.cons.inj hnull).1 (by decide)
    · rw [hread]
      rfl

end Scalars

/-! ## Records -/

section Record

variable {fields : List (Field α)} {field : Field α} {given : List String} {r r' : α}
  {name : String} {form : Form} {members : List (String × Form)} {result : Except Fault α}
  {text rest : List Char}

theorem Field.gives_of {presence : Presence} {reader : Reader β} {put : α → β → α}
    {value : Except Fault β} (h : Gives reader form value) (r : α) :
    Gives ((Field.of name presence reader put).read r) form (value.map (put r)) := by
  intro text rest hbegins
  simp only [Field.of, h text rest hbegins]
  cases value <;> rfl

variable (fields) in
/-- What becomes of a record when members are read into it, after those with the given names. -/
inductive Fills : List String → α → List (String × Form) → Except Fault α → Prop
  | complete {given : List String} {r : α} (h : complete fields given = true) :
    Fills given r [] (.ok r)
  | missing {given : List String} {r : α} (h : complete fields given = false) :
    Fills given r [] (.error .mismatched)
  | known {given : List String} {r r' : α} {name : String} {form : Form} {field : Field α}
    {members : List (String × Form)} {result : Except Fault α}
    (hfield : fields.find? (·.name = name) = some field) (hnew : name ∉ given)
    (hread : Gives (field.read r) form (.ok r')) (hmore : Fills (name :: given) r' members result) :
    Fills given r ((name, form) :: members) result
  | foreign {given : List String} {r : α} {name : String} {form : Form}
    {members : List (String × Form)} {result : Except Fault α}
    (hfield : fields.find? (·.name = name) = none) (hskip : Gives skip form (.ok ()))
    (hmore : Fills given r members result) : Fills given r ((name, form) :: members) result
  | repeated {given : List String} {r : α} {name : String} {form : Form} {field : Field α}
    {members : List (String × Form)} (hfield : fields.find? (·.name = name) = some field)
    (hgiven : name ∈ given) : Fills given r ((name, form) :: members) (.error .mismatched)
  | refused {given : List String} {r : α} {name : String} {form : Form} {field : Field α}
    {members : List (String × Form)} (hfield : fields.find? (·.name = name) = some field)
    (hnew : name ∉ given) (hread : Gives (field.read r) form (.error .mismatched)) :
    Fills given r ((name, form) :: members) (.error .mismatched)

/-- The first of the members decides the result, or it leaves that to the others. -/
theorem Fills.readMember (h : Fills fields given r ((name, form) :: members) result)
    (hmember : Form.Member name form text rest) : ∃ inner, skipSpace text = '"' :: inner ∧
      ((∃ given' r', Json.readMember fields given r inner = .ok ((given', r'), rest) ∧
        Fills fields given' r' members result) ∨
      Json.readMember fields given r inner = .error .mismatched ∧
        result = .error .mismatched) := by
  obtain ⟨hname, hcolon, hvalue⟩ := hmember
  obtain ⟨inner, htoken, hbody⟩ := textBody_of_begins hname
  refine ⟨inner, htoken, ?_⟩
  cases h with
  | known hfield hnew hread hmore =>
    refine .inl ⟨_, _, ?_, hmore⟩
    simp only [Json.readMember, hbody, hfield, hnew, token, hcolon, hread _ _ hvalue, bind,
      Except.bind, Except.map, if_false, if_true]
  | foreign hfield hskip hmore =>
    refine .inl ⟨_, _, ?_, hmore⟩
    simp only [Json.readMember, hbody, hfield, token, hcolon, hskip _ _ hvalue, bind, Except.bind,
      Except.map, if_true]
  | repeated hfield hgiven =>
    refine .inr ⟨?_, rfl⟩
    simp only [Json.readMember, hbody, hfield, hgiven, bind, Except.bind, if_true]
  | refused hfield hnew hread =>
    refine .inr ⟨?_, rfl⟩
    simp only [Json.readMember, hbody, hfield, hnew, token, hcolon, hread _ _ hvalue, bind,
      Except.bind, Except.map, if_false, if_true]

theorem Fills.readMembers (h : Fills fields given r members result) {rounds : Nat}
    (hmore : Form.MoreMembers members text rest) (hrounds : members.length < rounds) :
    Json.readMembers fields rounds given r text = result.map (·, rest) := by
  induction hmore generalizing given r rounds with
  | close hclose =>
    obtain ⟨rounds, rfl⟩ := Nat.exists_eq_add_of_lt hrounds
    cases h with
    | complete hcomplete => simp only [Json.readMembers, hclose, hcomplete, if_true]; rfl
    | missing hmissing => simp only [Json.readMembers, hclose, hmissing]; rfl
  | next hcomma hmember _ ih =>
    obtain ⟨rounds, rfl⟩ : ∃ k, rounds = k + 1 := ⟨rounds - 1, by omega⟩
    obtain ⟨inner, htoken, ⟨given', r', hread, hfills⟩ | ⟨hread, rfl⟩⟩ := h.readMember hmember
    · simp only [Json.readMembers, hcomma, htoken, hread, bind, Except.bind]
      exact ih hfills (by simpa using hrounds)
    · simp only [Json.readMembers, hcomma, htoken, hread, bind, Except.bind]
      rfl

/-- An object is read as its members fill the record. -/
theorem gives_record {Described : List (String × Form) → Prop}
    (h : ∀ members, Described members → Fills fields [] r members result) :
    Gives (record r fields) (.object Described) result := by
  rintro text rest ⟨members, inner, hdescribed, htoken, hmembers⟩
  have hfills := h members hdescribed
  simp only [record, htoken]
  cases hmembers with
  | none hclose =>
    cases hfills with
    | complete hcomplete => simp only [readObject, hclose, hcomplete, if_true]; rfl
    | missing hmissing => simp only [readObject, hclose, hmissing]; rfl
  | first hmember hmore =>
    obtain ⟨inner, hquote, ⟨given', r', hread, hfills'⟩ | ⟨hread, rfl⟩⟩ := hfills.readMember hmember
    -- Every member has its comma, so there are rounds enough for all of them.
    · have hlength := hmore.length_lt
      simp only [readObject, hquote, hread, bind, Except.bind]
      exact hfills'.readMembers hmore (by omega)
    · simp only [readObject, hquote, hread, bind, Except.bind]
      rfl

end Record

end Multihead.Json
