import Multihead.CommandLine.Read
import Multihead.Proofs.Except

/-!
# The flag for more records

The flag `-v` or `--verbose` says nothing but that more is to be logged. From the point where it is
given on, the reading with it and the one without it keep step: what is found is the same, and only
the flag differs (`Given`). So a command line that is understood with the flag is understood without
it as a request for the same (`requested_of_flag`).
-/

namespace Multihead.CommandLine

/-- What an invocation requests, apart from how much is to be logged. -/
def request (invocation : Invocation) : Option FilePath × Command :=
  (invocation.settingsFile, invocation.command)

/-- What a command line requests, if it is understood. -/
def requested (arguments : List String) : Except Stop (Option FilePath × Command) :=
  (read arguments).map request

def IsVerboseFlag (argument : String) : Prop := argument = "-v" ∨ argument = "--verbose"

/-! ## Steps with the flag given -/

variable {level : Level} {p p' q t : Progress}

/-- The draft in which the flag was given besides. -/
def Draft.louder (d : Draft) : Draft := { d with verbose := true }

def Progress.louder (p : Progress) : Progress := { p with draft := p.draft.louder }

theorem Draft.once_louder (given : Bool) (d : Draft) :
    once given d.louder = (once given d).map louder := by
  cases given <;> rfl

theorem Draft.giveValue_louder (d : Draft) (text : String) (opt : Opt) :
    d.louder.giveValue text opt = (d.giveValue text opt).map louder := by
  cases opt with
  | config =>
    simp only [giveValue]
    split
    · rfl
    · exact once_louder _ { d with config := some text }
  | select => exact once_louder _ { d with selection := some text }
  | toggle =>
    simp only [giveValue]
    cases position? text <;> rfl
  | mode =>
    simp only [giveValue]
    cases FullscreenMode.parse text with
    | ok mode => exact once_louder _ { d with edit := { d.edit with mode := some mode } }
    | error found => rfl
  | _ => rfl

theorem Draft.giveOperand_louder (d : Draft) (text : String) (operand : Operand) :
    d.louder.giveOperand text operand = (d.giveOperand text operand).map louder := by
  cases operand with
  | nothing => rfl
  | file =>
    simp only [Draft.giveOperand]
    split <;> rfl
  | text => rfl

/-- The flag is refused the second time, and every other flag is taken in as before. -/
theorem Draft.giveFlag_louder (d : Draft) {opt : Opt} (hopt : opt ≠ .verbose) :
    d.louder.giveFlag opt = (d.giveFlag opt).map louder := by
  cases opt with
  | verbose => exact absurd rfl hopt
  | all => exact once_louder _ { d with edit := { d.edit with all := true } }
  | clear => exact once_louder _ { d with edit := { d.edit with clear := true } }
  | dryRun => exact once_louder _ { d with dryRun := true }
  | _ => rfl

theorem Draft.command_louder (d : Draft) (verb : Verb) :
    d.louder.command verb = d.command verb := by
  cases verb <;> rfl

namespace Progress

/-- The same progress, in which the flag was given besides. -/
def IsLouder (p p' : Progress) : Prop := p' = p.louder

theorem settle_louder (p : Progress) (level : Level) :
    p.louder.settle level = (p.settle level).map louder := by
  obtain ⟨draft, pending, operandFound⟩ := p
  cases pending with
  | none => rfl
  | waiting opt => rfl
  | value opt text =>
    simp only [settle, louder, Draft.giveValue_louder]
    cases draft.giveValue text opt <;> rfl
  | operand text =>
    simp only [settle, louder, Draft.giveOperand_louder]
    cases draft.giveOperand text level.operand <;> rfl

/-- What was settled has nothing pending any more. -/
theorem pending_of_settle (h : p.settle level = .ok q) :
    q.pending = .none ∧ q.operandFound = p.operandFound ∧ p.isWaiting = false := by
  obtain ⟨draft, pending, operandFound⟩ := p
  cases pending with
  | none =>
    cases h
    exact ⟨rfl, rfl, rfl⟩
  | waiting opt => cases h
  | value opt text =>
    obtain ⟨draft', -, hq⟩ := bind_eq_ok_iff.1 h
    cases hq
    exact ⟨rfl, rfl, rfl⟩
  | operand text =>
    obtain ⟨draft', -, hq⟩ := bind_eq_ok_iff.1 h
    cases hq
    exact ⟨rfl, rfl, rfl⟩

theorem settle_of_pending_none (h : p.pending = .none) : p.settle level = .ok p := by
  unfold settle
  rw [h]

/-- The reading with the flag keeps step with the one without it. Where the flag was given, what was
pending was judged; without the flag it is judged at the next step. -/
def Given (level : Level) (p p' : Progress) : Prop :=
  ∃ q, IsLouder q p' ∧ (p = q ∨ p.settle level = .ok q)

theorem IsLouder.given (h : IsLouder p p') : Given level p p' := ⟨p, h, .inl rfl⟩

theorem Given.isWaiting (h : Given level p p') : p.isWaiting = p'.isWaiting := by
  obtain ⟨q, rfl, rfl | hsettled⟩ := h
  · rfl
  · obtain ⟨hpending, -, hwaiting⟩ := pending_of_settle hsettled
    rw [hwaiting, Progress.isWaiting, louder, hpending]

theorem Given.operandFound (h : Given level p p') : p.operandFound = p'.operandFound := by
  obtain ⟨q, rfl, rfl | hsettled⟩ := h
  · rfl
  · exact (pending_of_settle hsettled).2.1.symm

theorem Given.settle (h : Given level p p') :
    Follows IsLouder (p.settle level) (p'.settle level) := by
  obtain ⟨q, rfl, rfl | hsettled⟩ := h
  · rw [settle_louder]
    exact follows_map _ louder
  · rw [settle_louder, settle_of_pending_none (pending_of_settle hsettled).1, hsettled]
    exact follows_ok rfl

theorem give_louder (p : Progress) (opt : Opt) (attached : Option String) :
    Follows IsLouder (p.give opt attached) (p.louder.give opt attached) := by
  unfold give
  by_cases htakes : opt.takesValue = true
  · rw [if_pos htakes, if_pos htakes]
    cases attached with
    | none => exact follows_ok rfl
    | some value =>
      simp only [louder, Draft.giveValue_louder]
      refine (follows_map _ Draft.louder).bind fun draft draft' hdraft => ?_
      rw [hdraft]
      exact follows_ok rfl
  · rw [if_neg htakes, if_neg htakes]
    cases attached with
    | some value => exact follows_error _ _
    | none =>
      by_cases hopt : opt = .verbose
      · rw [hopt]
        exact follows_error _ _
      · simp only [louder, Draft.giveFlag_louder _ hopt]
        refine (follows_map _ Draft.louder).bind fun draft draft' hdraft => ?_
        rw [hdraft]
        exact follows_ok rfl

/-- To give an option after something is to settle what is pending and to take the option in. -/
theorem Given.settle_give (h : Given level p p') (opt : Opt) (attached : Option String) :
    Follows IsLouder (p.settle level >>= fun q => q.give opt attached)
      (p'.settle level >>= fun q => q.give opt attached) := by
  refine h.settle.bind fun q q' hq => ?_
  rw [hq]
  exact give_louder q opt attached

/-- A long option, with the value that is attached to it if there is one. -/
theorem giveLong_cases (level : Level) (text : List Char) :
    (∀ p : Progress, p.giveLong level text = .error .misuse) ∨
      ∃ opt attached, ∀ p : Progress,
        p.giveLong level text = p.settle level >>= fun q => q.give opt attached := by
  unfold Progress.giveLong
  rcases text.span (· ≠ '=') with ⟨name, rest⟩
  dsimp only
  split
  · exact .inl fun p => rfl
  · next opt hopt =>
    split
    · exact .inr ⟨opt, _, fun p => rfl⟩
    · exact .inr ⟨opt, _, fun p => rfl⟩

theorem Given.giveLong (h : Given level p p') (text : List Char) :
    Follows IsLouder (p.giveLong level text) (p'.giveLong level text) := by
  rcases giveLong_cases level text with hrefused | ⟨opt, attached, hgive⟩
  · rw [hrefused p']
    exact follows_error _ _
  · rw [hgive, hgive]
    exact h.settle_give opt attached

/-- The letter of a short option takes the rest of the letters as its value, or stands alone. -/
theorem giveShort_cons_cases (level : Level) (c : Char) (rest : List Char) :
    (∀ p : Progress, giveShort level p (c :: rest) = .error .misuse) ∨
      (∃ opt attached, ∀ p : Progress,
        giveShort level p (c :: rest) = p.settle level >>= fun q => q.give opt attached) ∨
      ∃ opt, ∀ p : Progress, giveShort level p (c :: rest) =
        (p.settle level >>= fun q => q.give opt none) >>= fun q => giveShort level q rest := by
  simp only [Progress.giveShort]
  split
  · exact .inl fun p => rfl
  · next opt hopt =>
    split
    · refine .inr (.inl ?_)
      split
      · exact ⟨opt, _, fun p => rfl⟩
      · exact ⟨opt, _, fun p => rfl⟩
      · exact ⟨opt, _, fun p => rfl⟩
    · exact .inr (.inr ⟨opt, fun p => (bind_assoc ..).symm⟩)

theorem Given.giveShort (h : Given level p p') (letters : List Char) :
    Follows (Given level) (Progress.giveShort level p letters)
      (Progress.giveShort level p' letters) := by
  induction letters generalizing p p' with
  | nil => exact follows_ok h
  | cons c rest ih =>
    rcases giveShort_cons_cases level c rest with hrefused | ⟨opt, attached, hgive⟩ | ⟨opt, hgive⟩
    · rw [hrefused p']
      exact follows_error _ _
    · rw [hgive, hgive]
      exact (h.settle_give opt attached).mono fun t t' ht => ht.given
    · rw [hgive, hgive]
      exact (h.settle_give opt none).bind fun q q' hq => ih hq.given

theorem Given.giveOperand (h : Given level p p') (text : String) :
    Follows IsLouder (p.giveOperand level text) (p'.giveOperand level text) := by
  unfold Progress.giveOperand
  rw [h.operandFound]
  split
  · exact follows_error _ _
  · refine h.settle.bind fun q q' hq => ?_
    rw [hq]
    exact follows_ok rfl

theorem givePlain_of_not_waiting (h : p.isWaiting = false) (level : Level) (text : String) :
    p.givePlain level text = p.giveOperand level text := by
  unfold Progress.givePlain
  split
  · next opt hpending =>
    rw [Progress.isWaiting, hpending] at h
    cases h
  · rfl

theorem Given.givePlain (h : Given level p p') (text : String) :
    Follows IsLouder (p.givePlain level text) (p'.givePlain level text) := by
  cases hwaiting : p.isWaiting with
  | false =>
    have hwaiting' := h.isWaiting.symm.trans hwaiting
    rw [givePlain_of_not_waiting hwaiting, givePlain_of_not_waiting hwaiting']
    exact h.giveOperand text
  | true =>
    -- the value that is waited for is taken in as it is
    obtain ⟨q, rfl, rfl | hsettled⟩ := h
    · obtain ⟨draft, pending, operandFound⟩ := p
      cases pending with
      | waiting opt => exact follows_ok rfl
      | _ => cases hwaiting
    · rw [(pending_of_settle hsettled).2.2] at hwaiting
      cases hwaiting

end Progress

/-! ## Reading with the flag given -/

section Given

open Progress

theorem Progress.Given.readArgument (h : Given level p p') (argument : String) :
    Follows (Given level) (CommandLine.readArgument level p argument)
      (CommandLine.readArgument level p' argument) := by
  unfold CommandLine.readArgument
  cases shape argument with
  | long text => exact (h.giveLong text).mono fun t t' ht => ht.given
  | short letters => exact h.giveShort letters
  | twoDashes => exact (h.givePlain argument).mono fun t t' ht => ht.given
  | plain => exact (h.givePlain argument).mono fun t t' ht => ht.given

theorem Progress.Given.readOperands (h : Given level p p') (arguments : List String) :
    Follows (Given level) (CommandLine.readOperands level p arguments)
      (CommandLine.readOperands level p' arguments) := by
  induction arguments generalizing p p' with
  | nil => exact follows_ok h
  | cons text rest ih => exact (h.giveOperand text).bind fun q q' hq => ih hq.given

theorem Progress.Given.readCommand (h : Given level p p') (arguments : List String) :
    Follows IsLouder (CommandLine.readCommand level p arguments)
      (CommandLine.readCommand level p' arguments) := by
  induction arguments generalizing p p' with
  | nil => exact h.settle
  | cons argument rest ih =>
    rw [CommandLine.readCommand, CommandLine.readCommand]
    split
    · exact (h.readOperands rest).bind fun q q' hq => hq.settle
    · exact (h.readArgument argument).bind fun q q' hq => ih hq

/-- The two invocations request the same. -/
def RequestSame (invocation invocation' : Invocation) : Prop :=
  request invocation = request invocation'

/-- The drafts are the same but for the flag. -/
def SameButFlag (p p' : Progress) : Prop := p'.draft.louder = p.draft.louder

theorem Progress.IsLouder.sameButFlag (h : IsLouder p p') : SameButFlag p p' := by
  rw [h]
  rfl

theorem SameButFlag.config (h : SameButFlag p p') : p'.draft.config = p.draft.config :=
  (congrArg (·.config) h : p'.draft.louder.config = p.draft.louder.config)

theorem SameButFlag.command (h : SameButFlag p p') (verb : Verb) :
    p'.draft.command verb = p.draft.command verb := by
  rw [← Draft.command_louder, h, Draft.command_louder]

theorem follows_sameButFlag (result : Except Stop Progress) :
    Follows SameButFlag result result := by
  refine (follows_self result).mono fun t t' ht => ?_
  rw [ht]
  rfl

/-- Readings at both levels that differ in the flag alone lead to the same request. -/
theorem readInvocation_follows {verb : Verb} {arguments arguments' : List String}
    (hinner : Follows SameButFlag (readCommand (.command verb) {} arguments)
      (readCommand (.command verb) {} arguments'))
    (houter : Follows SameButFlag (p.settle .program) (p'.settle .program)) :
    Follows RequestSame (readInvocation p verb arguments) (readInvocation p' verb arguments') := by
  refine hinner.bind fun inner inner' hinner => ?_
  rw [hinner.command]
  refine (follows_self _).bind fun command command' hsame => ?_
  refine houter.bind fun outer outer' houter => ?_
  rw [← hsame, hinner.config, houter.config]
  exact follows_ok rfl

theorem Progress.Given.readProgram (h : Given .program p p') (arguments : List String) :
    Follows RequestSame (CommandLine.readProgram p arguments)
      (CommandLine.readProgram p' arguments) := by
  induction arguments generalizing p p' with
  | nil => exact follows_error _ _
  | cons argument rest ih =>
    rw [CommandLine.readProgram, CommandLine.readProgram, h.isWaiting]
    cases (if p'.isWaiting then none else Verb.ofName? argument) with
    | some verb =>
      refine readInvocation_follows (follows_sameButFlag _) ?_
      exact h.settle.mono fun t t' ht => ht.sameButFlag
    | none =>
      dsimp only
      split
      · exact follows_error _ _
      · split
        · exact follows_error _ _
        · exact (h.readArgument argument).bind fun q q' hq => ih hq

end Given

/-! ## Where the flag is given -/

section Flag

open Progress

variable {flag : String} (hflag : IsVerboseFlag flag)

theorem shape_eq_twoDashes_iff {argument : String} :
    shape argument = .twoDashes ↔ argument = "--" := by
  constructor
  · intro h
    unfold shape at h
    split at h
    · next hdashes => exact String.toList_inj.1 hdashes
    all_goals cases h
  · rintro rfl
    decide

/-- The flag is known at every level. -/
theorem find?_verbose (level : Level) :
    level.opts.find? (·.short = some 'v') = some .verbose ∧
      level.opts.find? (·.long = String.ofList "verbose".toList) = some .verbose := by
  cases level with
  | program => decide
  | command verb => cases verb <;> decide

theorem given_of_settle (hsettle : p.settle level = .ok q) (hgive : q.give .verbose none = .ok t) :
    Given level p t := by
  refine ⟨q, ?_, .inr hsettle⟩
  obtain ⟨draft, hdraft, hgiven⟩ := bind_eq_ok_iff.1 hgive
  cases hgiven
  cases hverbose : q.draft.verbose with
  | true =>
    rw [Draft.giveFlag, hverbose] at hdraft
    cases hdraft
  | false =>
    rw [Draft.giveFlag, hverbose] at hdraft
    cases hdraft
    rfl

include hflag in
/-- To read the flag is to settle what is pending and to note the flag. -/
theorem readArgument_flag (h : readArgument level p flag = .ok t) : Given level p t := by
  obtain ⟨hshort, hlong⟩ := find?_verbose level
  rcases hflag with rfl | rfl
  · have hletters : giveShort level p ['v'] = .ok t := h
    simp only [giveShort, hshort, Opt.takesValue, Bool.false_eq_true, if_false] at hletters
    obtain ⟨q, hq, hgive⟩ := bind_eq_ok_iff.1 hletters
    obtain ⟨t, ht, hend⟩ := bind_eq_ok_iff.1 hgive
    cases hend
    exact given_of_settle hq ht
  · have htext : p.giveLong level "verbose".toList = .ok t := h
    have hspan : "verbose".toList.span (· ≠ '=') = ("verbose".toList, []) := by decide
    simp only [giveLong, hspan, hlong] at htext
    obtain ⟨q, hq, hgive⟩ := bind_eq_ok_iff.1 htext
    exact given_of_settle hq hgive

include hflag in
theorem shape_flag : shape flag ≠ .twoDashes ∧ flag ≠ helpName ∧ Verb.ofName? flag = none := by
  rcases hflag with rfl | rfl <;> decide

include hflag in
theorem readCommand_flag {inner outer : List String} (houter : "--" ∉ outer) :
    Follows IsLouder (readCommand level p (outer ++ inner))
      (readCommand level p (outer ++ flag :: inner)) := by
  induction outer generalizing p with
  | nil =>
    intro t ht
    rw [List.nil_append, readCommand, if_neg (shape_flag hflag).1] at ht
    obtain ⟨q, hq, hinner⟩ := bind_eq_ok_iff.1 ht
    exact (readArgument_flag hflag hq).readCommand inner t hinner
  | cons argument outer ih =>
    have hdashes : shape argument ≠ .twoDashes := by
      rw [Ne, shape_eq_twoDashes_iff]
      rintro rfl
      exact houter List.mem_cons_self
    rw [List.cons_append, List.cons_append, readCommand, readCommand, if_neg hdashes,
      if_neg hdashes]
    refine (follows_self _).bind fun q q' hq => ?_
    rw [hq]
    exact ih fun hmem => houter (List.mem_cons_of_mem _ hmem)

include hflag in
theorem readProgram_flag {inner outer : List String} (houter : "--" ∉ outer) :
    Follows RequestSame (readProgram p (outer ++ inner))
      (readProgram p (outer ++ flag :: inner)) := by
  induction outer generalizing p with
  | nil =>
    intro invocation h
    obtain ⟨hdashes, hhelp, hverb⟩ := shape_flag hflag
    rw [List.nil_append, readProgram, hverb, ite_self] at h
    simp only [hhelp, hdashes, decide_false, Bool.and_false, Bool.false_eq_true, if_false] at h
    obtain ⟨q, hq, hinner⟩ := bind_eq_ok_iff.1 h
    exact (readArgument_flag hflag hq).readProgram inner invocation hinner
  | cons argument outer ih =>
    have houter : "--" ∉ outer := fun hmem => houter (List.mem_cons_of_mem _ hmem)
    rw [List.cons_append, List.cons_append, readProgram, readProgram]
    cases (if p.isWaiting then none else Verb.ofName? argument) with
    | some verb =>
      refine readInvocation_follows ?_ (follows_sameButFlag _)
      exact (readCommand_flag hflag houter).mono fun t t' ht => ht.sameButFlag
    | none =>
      dsimp only
      split
      · exact follows_error _ _
      · split
        · exact follows_error _ _
        · refine (follows_self _).bind fun q q' hq => ?_
          rw [hq]
          exact ih houter

include hflag in
/-- Without the flag, a command line requests what it requests with the flag. -/
theorem requested_of_flag {inner outer : List String} {asked : Option FilePath × Command}
    (houter : "--" ∉ outer) (h : requested (outer ++ flag :: inner) = .ok asked) :
    requested (outer ++ inner) = .ok asked := by
  obtain ⟨invocation', hread, rfl⟩ := map_eq_ok_iff.1 h
  obtain ⟨invocation, hread, hsame⟩ := readProgram_flag hflag houter invocation' hread
  exact map_eq_ok_iff.2 ⟨invocation, hread, hsame⟩

end Flag

end Multihead.CommandLine
