import Multihead.Json.Skip
import Multihead.Proofs.Json.Number
import Multihead.Proofs.Json.Spelling

/-!
# The grammar of values

What a well-formed value is, without a look at how one is read (`WellFormed`): a word, a number, a
text, or items between brackets, with spaces before any token. Texts may hold code units that make
no character, numbers may be of any size, and brackets may be nested to any depth. Every such value
is passed over, up to what follows it (`skip_of_wellFormed`).
-/

namespace Multihead.Json

/-! ## Phrases -/

def Bracket.opening : Bracket → Char
  | .array => '['
  | .object => '\x7b'

/-- The parts of a value that the grammar tells apart. -/
inductive Phrase
  | value
  /-- An element of an array or a member of an object. -/
  | item (bracket : Bracket)
  /-- What follows an opening bracket, up to the closing one. -/
  | items (bracket : Bracket)
  /-- What follows an item, up to the closing bracket. -/
  | more (bracket : Bracket)

/-- A text begins with a phrase, after any spaces, and goes on with `rest`. -/
inductive WellFormed : Phrase → List Char → List Char → Prop
  | word {word text rest : List Char}
    (hword : word ∈ ["null".toList, "true".toList, "false".toList])
    (htoken : skipSpace text = word ++ rest) : WellFormed .value text rest
  | number {form text rest : List Char} {n : Number} (hnumber : Number.IsNumber form n)
    (htoken : skipSpace text = form ++ rest) (hend : EndsNumber rest) :
    WellFormed .value text rest
  | text {body text rest : List Char} (hbody : TextBody body)
    (htoken : skipSpace text = '"' :: (body ++ '"' :: rest)) : WellFormed .value text rest
  | brackets {bracket : Bracket} {text inner rest : List Char}
    (htoken : skipSpace text = bracket.opening :: inner)
    (hitems : WellFormed (.items bracket) inner rest) : WellFormed .value text rest
  | element {text rest : List Char} (hvalue : WellFormed .value text rest) :
    WellFormed (.item .array) text rest
  | member {body text colon inner rest : List Char} (hbody : TextBody body)
    (hname : skipSpace text = '"' :: (body ++ '"' :: colon))
    (hcolon : skipSpace colon = ':' :: inner) (hvalue : WellFormed .value inner rest) :
    WellFormed (.item .object) text rest
  | none {bracket : Bracket} {text rest : List Char}
    (hclose : skipSpace text = bracket.closing :: rest) : WellFormed (.items bracket) text rest
  | first {bracket : Bracket} {text after rest : List Char}
    (hitem : WellFormed (.item bracket) text after)
    (hmore : WellFormed (.more bracket) after rest) : WellFormed (.items bracket) text rest
  | close {bracket : Bracket} {text rest : List Char}
    (hclose : skipSpace text = bracket.closing :: rest) : WellFormed (.more bracket) text rest
  | next {bracket : Bracket} {text inner after rest : List Char}
    (hcomma : skipSpace text = ',' :: inner) (hitem : WellFormed (.item bracket) inner after)
    (hmore : WellFormed (.more bracket) after rest) : WellFormed (.more bracket) text rest

variable {phrase : Phrase} {bracket : Bracket} {form text rest : List Char}

theorem skipSpace_skipSpace (text : List Char) : skipSpace (skipSpace text) = skipSpace text :=
  List.dropWhile_idempotent isSpace text

theorem length_lt_of_skipSpace {c : Char} {inner : List Char} (h : skipSpace text = c :: inner) :
    inner.length < text.length := by
  have hle := length_le_of_skipSpace [c] h
  rw [List.length_singleton] at hle
  omega

/-- Every phrase takes a character. -/
theorem WellFormed.length_lt (h : WellFormed phrase text rest) : rest.length < text.length := by
  induction h with
  | word hword htoken =>
    have hle := length_le_of_skipSpace _ htoken
    simp only [List.mem_cons, List.not_mem_nil, or_false] at hword
    rcases hword with rfl | rfl | rfl <;> exact Nat.lt_of_lt_of_le (by simp) hle
  | number hnumber htoken _ =>
    have hle := length_le_of_skipSpace _ htoken
    obtain ⟨c, more, rfl, -⟩ := hnumber.exists_cons
    rw [List.length_cons] at hle
    omega
  | text _ htoken =>
    have hlt := length_lt_of_skipSpace htoken
    rw [List.length_append, List.length_cons] at hlt
    omega
  | brackets htoken _ ih => exact Nat.lt_trans ih (length_lt_of_skipSpace htoken)
  | element _ ih => exact ih
  | member _ hname hcolon _ ih =>
    have hlt := length_lt_of_skipSpace hname
    have hlt' := length_lt_of_skipSpace hcolon
    rw [List.length_append, List.length_cons] at hlt
    omega
  | none hclose | close hclose => exact length_lt_of_skipSpace hclose
  | first _ _ ihitem ihmore => exact Nat.lt_trans ihmore ihitem
  | next hcomma _ _ ihitem ihmore =>
    exact Nat.lt_trans ihmore (Nat.lt_trans ihitem (length_lt_of_skipSpace hcomma))

/-! ## Passing over -/

theorem skipScalar_of_word {word : List Char}
    (hword : word ∈ ["null".toList, "true".toList, "false".toList]) (rest : List Char) :
    skipScalar (word ++ rest) = .ok rest := by
  simp only [List.mem_cons, List.not_mem_nil, or_false] at hword
  rcases hword with rfl | rfl | rfl
  · exact congrArg (·.map Prod.snd) (word_append "ull".toList rest)
  · exact congrArg (·.map Prod.snd) (word_append "rue".toList rest)
  · exact congrArg (·.map Prod.snd) (word_append "alse".toList rest)

theorem skipScalar_of_textBody {body : List Char} (hbody : TextBody body) (rest : List Char) :
    skipScalar ('"' :: (body ++ '"' :: rest)) = .ok rest := by
  obtain ⟨s, htake⟩ := takeText_of_textBody hbody [] rest
  simp [skipScalar, htake, bind, Except.bind, pure, Except.pure]

theorem skipScalar_of_isNumber {n : Number} (hnumber : Number.IsNumber form n)
    (hend : EndsNumber rest) : skipScalar (form ++ rest) = .ok rest := by
  have htake := Number.take_of_isNumber .malformed hnumber hend
  obtain ⟨c, more, rfl, hstarts⟩ := hnumber.exists_cons
  rw [List.cons_append] at htake ⊢
  have hother : c ≠ 'n' ∧ c ≠ 't' ∧ c ≠ 'f' ∧ c ≠ '"' := by
    refine ⟨?_, ?_, ?_, ?_⟩ <;> rintro rfl <;> cases hstarts
  obtain ⟨hn, ht, hf, hq⟩ := hother
  simp [skipScalar, hn, ht, hf, hq, hstarts, htake, bind, Except.bind, pure, Except.pure]

theorem skipName_of_textBody {body colon inner : List Char} (hbody : TextBody body)
    (hcolon : skipSpace colon = ':' :: inner) :
    skipName ('"' :: (body ++ '"' :: colon)) = .ok inner := by
  obtain ⟨s, htake⟩ := takeText_of_textBody hbody [] colon
  simp [skipName, htake, token, hcolon, bind, Except.bind, pure, Except.pure]

/-- What has to come next where a phrase begins, and the open brackets there, given those around the
value that the phrase is a part of. -/
def Phrase.expected : Phrase → List Bracket → Expected × List Bracket
  | .value, stack => (.value, stack)
  | .item bracket, stack => (bracket.item, stack)
  | .items bracket, stack => (.firstItem, bracket :: stack)
  | .more bracket, stack => (.nextItem, bracket :: stack)

/-- The first character of an item does not close its brackets. -/
theorem WellFormed.opens (h : WellFormed (.item bracket) text rest) :
    ∃ c inner, skipSpace text = c :: inner ∧ c ≠ bracket.closing := by
  cases h with
  | member _ hname _ _ => exact ⟨_, _, hname, by decide⟩
  | element hvalue =>
    cases hvalue with
    | word hword htoken =>
      simp only [List.mem_cons, List.not_mem_nil, or_false] at hword
      rcases hword with rfl | rfl | rfl <;> exact ⟨_, _, htoken, by decide⟩
    | number hnumber htoken _ =>
      obtain ⟨c, more, rfl, hstarts⟩ := hnumber.exists_cons
      refine ⟨c, _, htoken, ?_⟩
      rintro rfl
      cases hstarts
    | text _ htoken => exact ⟨_, _, htoken, by decide⟩
    | @brackets bracket _ _ _ htoken _ =>
      cases bracket <;> exact ⟨_, _, htoken, by decide⟩

section Rounds

variable {stack : List Bracket} (rounds : Nat)

attribute [local simp] skipFrom

theorem skipFrom_of_skipScalar (h : skipScalar (skipSpace text) = .ok rest) :
    skipFrom (rounds + 1) .value stack text = skipFrom rounds .nextItem stack rest := by
  rw [skipFrom]
  split
  · next hnil =>
    rw [hnil] at h
    cases h
  · next hopen =>
    rw [hopen] at h
    cases h
  · next hopen =>
    rw [hopen] at h
    cases h
  · simp only [h, bind, Except.bind]

theorem skipFrom_item_skipSpace :
    skipFrom rounds bracket.item stack (skipSpace text) =
      skipFrom rounds bracket.item stack text := by
  cases rounds with
  | zero => rfl
  | succ rounds => cases bracket <;> simp [Bracket.item, skipSpace_skipSpace]

theorem skipFrom_firstItem {c : Char} {inner : List Char} (h : skipSpace text = c :: inner) :
    skipFrom (rounds + 1) .firstItem (bracket :: stack) text =
      if c = bracket.closing then skipFrom rounds .nextItem stack inner
      else skipFrom rounds bracket.item (bracket :: stack) text := by
  simp only [skipFrom, h]
  rw [← h, skipFrom_item_skipSpace]

theorem skipFrom_nextItem {c : Char} {inner : List Char} (h : skipSpace text = c :: inner) :
    skipFrom (rounds + 1) .nextItem (bracket :: stack) text =
      if c = bracket.closing then skipFrom rounds .nextItem stack inner
      else if c = ',' then skipFrom rounds bracket.item (bracket :: stack) inner
      else .error .malformed := by
  simp [h]

end Rounds

/-- A phrase is passed over, and any two rounds of that take a character. -/
theorem skipFrom_of_wellFormed (h : WellFormed phrase text rest) (stack : List Bracket) :
    ∃ rounds, rounds + 2 * rest.length < 2 * text.length ∧ ∀ further,
      skipFrom (further + rounds) (phrase.expected stack).1 (phrase.expected stack).2 text =
        skipFrom further .nextItem stack rest := by
  have hlength := h.length_lt
  induction h generalizing stack with
  | word hword htoken =>
    refine ⟨1, by omega, fun further => skipFrom_of_skipScalar further ?_⟩
    rw [htoken]
    exact skipScalar_of_word hword _
  | number hnumber htoken hend =>
    refine ⟨1, by omega, fun further => skipFrom_of_skipScalar further ?_⟩
    rw [htoken]
    exact skipScalar_of_isNumber hnumber hend
  | text hbody htoken =>
    refine ⟨1, by omega, fun further => skipFrom_of_skipScalar further ?_⟩
    rw [htoken]
    exact skipScalar_of_textBody hbody _
  | @brackets bracket _ _ _ htoken hitems ih =>
    obtain ⟨rounds, hrounds, hskip⟩ := ih stack hitems.length_lt
    have hinner := length_lt_of_skipSpace htoken
    refine ⟨rounds + 1, by omega, fun further => ?_⟩
    rw [← hskip]
    cases bracket <;>
      simp only [Phrase.expected, ← Nat.add_assoc, skipFrom, htoken, Bracket.opening]
  | element hvalue ih => exact ih stack hvalue.length_lt
  | member hbody hname hcolon hvalue ih =>
    obtain ⟨rounds, hrounds, hskip⟩ := ih stack hvalue.length_lt
    have hcolon' := length_lt_of_skipSpace hname
    have hinner := length_lt_of_skipSpace hcolon
    rw [List.length_append, List.length_cons] at hcolon'
    refine ⟨rounds + 1, by omega, fun further => ?_⟩
    rw [← hskip]
    simp only [Phrase.expected, Bracket.item, ← Nat.add_assoc, skipFrom, hname,
      skipName_of_textBody hbody hcolon, bind, Except.bind]
  | none hclose =>
    refine ⟨1, by omega, fun further => ?_⟩
    exact (skipFrom_firstItem further hclose).trans (if_pos rfl)
  | first hitem hmore ihitem ihmore =>
    obtain ⟨rounds, hrounds, hskip⟩ := ihitem (_ :: stack) hitem.length_lt
    obtain ⟨rounds', hrounds', hskip'⟩ := ihmore stack hmore.length_lt
    obtain ⟨c, inner, hfirst, hc⟩ := hitem.opens
    refine ⟨rounds' + rounds + 1, by omega, fun further => ?_⟩
    rw [← hskip', ← Nat.add_assoc, ← Nat.add_assoc]
    refine ((skipFrom_firstItem _ hfirst).trans (if_neg hc)).trans ?_
    exact hskip (further + rounds')
  | close hclose =>
    refine ⟨1, by omega, fun further => ?_⟩
    exact (skipFrom_nextItem further hclose).trans (if_pos rfl)
  | @next bracket _ _ _ _ hcomma hitem hmore ihitem ihmore =>
    obtain ⟨rounds, hrounds, hskip⟩ := ihitem (_ :: stack) hitem.length_lt
    obtain ⟨rounds', hrounds', hskip'⟩ := ihmore stack hmore.length_lt
    have hinner := length_lt_of_skipSpace hcomma
    have hc : ',' ≠ bracket.closing := by cases bracket <;> decide
    refine ⟨rounds' + rounds + 1, by omega, fun further => ?_⟩
    rw [← hskip', ← Nat.add_assoc, ← Nat.add_assoc]
    refine ((skipFrom_nextItem _ hcomma).trans ((if_neg hc).trans (if_pos rfl))).trans ?_
    exact hskip (further + rounds')

/-- A well-formed value is passed over, whatever follows it. -/
theorem skip_of_wellFormed (h : WellFormed .value text rest) : skip text = .ok ((), rest) := by
  obtain ⟨rounds, hrounds, hskip⟩ := skipFrom_of_wellFormed h []
  obtain ⟨further, hfurther⟩ : ∃ further, 2 * text.length + 2 = further + 1 + rounds :=
    ⟨2 * text.length + 1 - rounds, by omega⟩
  have hrun : skipFrom (2 * text.length + 2) .value [] text = .ok rest := by
    rw [hfurther]
    exact hskip (further + 1)
  rw [skip, hrun]
  rfl

end Multihead.Json
