import Multihead.Proofs.Json.Members

/-!
# Reading what was written

A reader reads a value if it takes every written form of it and leaves what follows (`Reads`). The
readers of scalars read their values, and the reader of a record reads an object if its members, one
after the other, name fields that read their values (`Accepts`, `reads_record`).
-/

namespace Multihead.Json

variable {α : Type}

/-- The reader takes every written form of a value, and makes `a` of it. -/
def Reads (reader : Reader α) (v : Value) (a : α) : Prop :=
  ∀ text rest, Written v text rest → reader text = .ok (a, rest)

/-- The written forms of a value. -/
def Form.written (v : Value) : Form := ⟨Written v, fun h => h.length_le⟩

theorem Reads.gives {reader : Reader α} {v : Value} {a : α} (h : Reads reader v a) :
    Gives reader (.written v) (.ok a) := h

/-- A value is read from a text that is one of its forms. -/
theorem Reads.parse_form {reader : Reader α} {v : Value} {a : α} {form : List Char}
    (h : Reads reader v a) (hform : IsForm v form) :
    Json.parse reader (String.ofList form) = .ok a := h.gives.parse hform.written rfl

/-! ## Forms that are written -/

theorem begins_text {s : String} {text rest : List Char} (h : Written (.text s) text rest) :
    (Form.text s).Begins text rest := by
  cases h with
  | text htoken =>
    refine ⟨_, spells_escapeText s.toList, htoken.trans ?_⟩
    simp only [writeText, List.cons_append, List.append_assoc, List.nil_append]

theorem begins_bool {b : Bool} {text rest : List Char} (h : Written (.bool b) text rest) :
    (Form.bool b).Begins text rest := by
  cases h with
  | bool htoken => exact htoken

theorem begins_ofText? {s : Option String} {text rest : List Char}
    (h : Written (.ofText? s) text rest) : (Form.ofText? s).Begins text rest := by
  cases s with
  | none =>
    cases h with
    | null htoken => exact htoken
  | some s => exact begins_text h

theorem begins_member {name : String} {v : Value} {text rest : List Char}
    (h : WrittenMember name v text rest) : Form.Member name (.written v) text rest := by
  obtain ⟨hname, hcolon, hvalue⟩ := h
  exact .mk (begins_text (.text hname)) hcolon hvalue

/-- The members of an object as they are written. -/
def Form.writtenMembers (members : List (String × Value)) : List (String × Form) :=
  members.map fun member => (member.1, .written member.2)

theorem begins_moreMembers {members : List (String × Value)} {text rest : List Char}
    (h : NextMembers members text rest) :
    Form.MoreMembers (Form.writtenMembers members) text rest := by
  induction members generalizing text with
  | nil =>
    cases h with
    | nil hclose => exact .close hclose
  | cons member members ih =>
    cases h with
    | cons hcomma hmember hnext => exact .next hcomma (begins_member hmember) (ih hnext)

theorem begins_members {members : List (String × Value)} {text rest : List Char}
    (h : WrittenMembers members text rest) :
    Form.Members (Form.writtenMembers members) text rest := by
  cases h with
  | nil hclose => exact .none hclose
  | cons hmember hnext => exact .first (begins_member hmember) (begins_moreMembers hnext)

/-- An object is of a form if its members, as they are written, are of the described ones. -/
theorem Form.object_includes_written {Described : List (String × Form) → Prop}
    {members : List (String × Form)} {values : List (String × Value)} (h : Described members)
    (hvalues : List.Forall₂ (fun v m => v.1 = m.1 ∧ m.2.Includes (.written v.2)) values members) :
    (object Described).Includes (.written (.object values)) := by
  intro text rest hwritten
  cases hwritten with
  | object htoken hmembers =>
    have hmembers := (begins_members hmembers).mono (List.forall₂_map_left_iff.2 hvalues)
    exact ⟨members, _, h, htoken, hmembers⟩

/-! ## Scalars -/

theorem reads_text (s : String) : Reads text (.text s) s :=
  fun _ _ h => gives_text s _ _ (begins_text h)

theorem reads_bool (b : Bool) : Reads bool (.bool b) b :=
  fun _ _ h => gives_bool b _ _ (begins_bool h)

/-- A text that may be missing is read as it is or as null. -/
theorem reads_ofText? (s : Option String) : Reads (nullable text) (.ofText? s) s :=
  fun _ _ h => gives_ofText? s _ _ (begins_ofText? h)

theorem reads_name {ofName? : String → Option α} {s : String} {a : α} (h : ofName? s = some a) :
    Reads (name ofName?) (.text s) a :=
  fun _ _ hwritten => gives_name h _ _ (begins_text hwritten)

/-! ## Integers -/

section Integers

variable {least greatest n : Int}

/-- An integer within the bounds of a reader is read, if its size fits into the significand. -/
theorem reads_integer (hleast : least ≤ n) (hgreatest : n ≤ greatest)
    (hsize : n.natAbs ≤ Number.maxSignificand) :
    Reads (integer least greatest) (.integer n) n := by
  intro input rest hwritten
  cases hwritten with
  | integer htoken hend =>
    obtain ⟨c, digits, hcons, hc⟩ := exists_integerText_eq_cons n
    have hstarts : startsNumber c = true := by simpa [startsNumber] using hc
    have htake := Number.take_of_isNumber .truncated (Number.isNumber_integerText n) hend
    rw [hcons, List.cons_append] at htoken htake
    have hnumber : number (c :: (digits ++ rest)) = .ok (Number.ofInteger n, rest) := by
      simp only [number, htake, Number.isTooLarge_ofInteger hsize, bind, Except.bind,
        Bool.false_eq_true, if_false]
    simp only [integer, htoken, hstarts, hnumber, Number.integer?_ofInteger, hleast, hgreatest,
      bind, Except.bind, if_true, decide_true, Bool.and_self]

theorem reads_int32 (z : Int32) : Reads int32 (.integer z.toInt) z := by
  have hleast : -2147483648 ≤ z.toInt := z.le_toInt
  have hgreatest : z.toInt ≤ 2147483647 := by
    have := z.toInt_lt
    omega
  have hsize : z.toInt.natAbs ≤ Number.maxSignificand := by
    simp only [Number.maxSignificand, UInt64.size]
    omega
  intro text rest hwritten
  simp only [int32, reads_integer hleast hgreatest hsize text rest hwritten, bind, Except.bind,
    Int32.ofInt_toInt]

theorem reads_uint32 (n : UInt32) : Reads uint32 (.integer n.toNat) n := by
  have hleast : (0 : Int) ≤ n.toNat := Int.natCast_nonneg _
  have hgreatest : (n.toNat : Int) ≤ 4294967295 := by
    have := n.toNat_lt
    omega
  have hsize : (n.toNat : Int).natAbs ≤ Number.maxSignificand := by
    simp only [Number.maxSignificand, UInt64.size]
    omega
  intro text rest hwritten
  simp only [uint32, reads_integer hleast hgreatest hsize text rest hwritten, bind, Except.bind,
    Int.toNat_natCast, UInt32.ofNat_toNat]

end Integers

/-! ## Records -/

section Record

variable {fields : List (Field α)} {given given' : List String} {r r' : α}

/-- A field reads a value into a record and gives another one. -/
def Field.Reads (field : Field α) (v : Value) (r r' : α) : Prop := Json.Reads (field.read r) v r'

theorem Field.reads_of {β : Type} {name : String} {presence : Presence} {reader : Reader β}
    {put : α → β → α} {v : Value} {b : β} (h : Json.Reads reader v b) (r : α) :
    (Field.of name presence reader put).Reads v r (put r b) := by
  intro text rest hwritten
  simp only [Field.of, h text rest hwritten, bind, Except.bind]

variable (fields) in
/-- The fields read members one after the other: each member names a field that was not given yet,
and the field reads its value. -/
inductive Accepts : List String → α → List (String × Value) → List String → α → Prop
  | nil {given : List String} {r : α} : Accepts given r [] given r
  | cons {given given' : List String} {r r' r'' : α} {name : String} {v : Value}
    {members : List (String × Value)} {field : Field α}
    (hfield : fields.find? (·.name = name) = some field) (hnew : name ∉ given)
    (hread : field.Reads v r r') (hmembers : Accepts (name :: given) r' members given' r'') :
    Accepts given r ((name, v) :: members) given' r''

theorem Accepts.append {given'' : List String} {r'' : α} {members members' : List (String × Value)}
    (h : Accepts fields given r members given' r')
    (h' : Accepts fields given' r' members' given'' r'') :
    Accepts fields given r (members ++ members') given'' r'' := by
  induction h with
  | nil => exact h'
  | cons hfield hnew hread _ ih => exact .cons hfield hnew hread (ih h')

/-- The members that the fields accept fill the record. -/
theorem Accepts.fills {members : List (String × Value)}
    (h : Accepts fields given r members given' r') (hcomplete : complete fields given' = true) :
    Fills fields given r (Form.writtenMembers members) (.ok r') := by
  induction h with
  | nil => exact .complete hcomplete
  | cons hfield hnew hread _ ih => exact .known hfield hnew hread (ih hcomplete)

/-- A record is read from an object whose members its fields accept. -/
theorem reads_record {members : List (String × Value)}
    (haccepts : Accepts fields [] r members given' r') (hcomplete : complete fields given' = true) :
    Reads (record r fields) (.object members) r' := by
  have hfills : ∀ written, written = Form.writtenMembers members →
      Fills fields [] r written (.ok r') := by
    rintro _ rfl
    exact haccepts.fills hcomplete
  intro text rest hwritten
  cases hwritten with
  | object htoken hmembers =>
    exact gives_record hfills _ _ ⟨_, _, rfl, htoken, begins_members hmembers⟩

end Record

/-! ## Lists -/

section List

variable {v : Value} {text rest : List Char}

/-- The first character of a form does not close a list. -/
theorem Written.opens (h : Written v text rest) :
    ∃ c inner, skipSpace text = c :: inner ∧ c ≠ ']' := by
  cases h with
  | null htoken => exact ⟨_, _, htoken, by decide⟩
  | @bool b _ _ htoken => cases b <;> exact ⟨_, _, htoken, by decide⟩
  | @integer n _ _ htoken _ =>
    obtain ⟨c, digits, hcons, hc⟩ := exists_integerText_eq_cons n
    rw [hcons] at htoken
    refine ⟨c, _, htoken, ?_⟩
    rintro rfl
    rcases hc with hc | hc <;> exact absurd hc (by decide)
  | text htoken => exact ⟨_, _, htoken, by decide⟩
  | array htoken _ => exact ⟨_, _, htoken, by decide⟩
  | object htoken _ => exact ⟨_, _, htoken, by decide⟩

variable {reader : Reader α} {elements : List Value} {as : List α}

theorem readListNext_eq (h : List.Forall₂ (Reads reader) elements as) {rounds : Nat}
    (hnext : NextElements elements text rest) (hrounds : elements.length < rounds) :
    readListNext reader rounds text = .ok (as, rest) := by
  induction h generalizing rounds text with
  | nil =>
    obtain ⟨rounds, rfl⟩ := Nat.exists_eq_add_of_lt hrounds
    obtain ⟨hclose⟩ := hnext
    simp only [readListNext, hclose]
  | cons hread _ ih =>
    obtain ⟨rounds, rfl⟩ : ∃ k, rounds = k + 1 := ⟨rounds - 1, by omega⟩
    cases hnext with
    | cons hcomma hvalue hnext =>
      obtain ⟨c, inner, hfirst, hc⟩ := hvalue.opens
      have hread := hread _ _ hvalue.atToken
      have hrest := ih hnext (by simpa using hrounds)
      rw [hfirst] at hread
      simp [readListNext, hcomma, hfirst, hc, hread, hrest, bind, Except.bind]

/-- A list is read if each of its elements is. -/
theorem reads_list (h : List.Forall₂ (Reads reader) elements as) :
    Reads (list reader) (.array elements) as := by
  intro text rest hwritten
  cases hwritten with
  | array htoken helements =>
    cases helements with
    | nil hclose =>
      cases h
      simp only [list, htoken, hclose]
    | @cons _ elements _ after _ hvalue hnext =>
      cases h with
      | cons hread hreads =>
        -- Every element has its comma, so there are rounds enough for all of them.
        have hrounds : elements.length < after.length + 1 := by
          have := hnext.length_le
          omega
        have hrest := readListNext_eq hreads hnext hrounds
        obtain ⟨c, inner, hfirst, hc⟩ := hvalue.opens
        have hread := hread _ _ hvalue.atToken
        rw [hfirst] at hread
        simp [list, htoken, hfirst, hc, hread, hrest, bind, Except.bind]

end List

end Multihead.Json
