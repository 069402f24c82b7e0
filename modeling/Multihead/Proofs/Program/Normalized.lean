import Multihead.Proofs.Arrangement.RestoreReport
import Multihead.Proofs.Program.Edits

/-!
# The normal form of saved settings

A layout that loads gives an arrangement whatever the saved selection text is, and what the text and
the saved mode say about it is `Restores`. The settings that describe this arrangement are a normal
form: loading them gives the arrangement again. So runs of `select` that edit nothing replace the
settings by their normal form, at the first success, and leave them so
(`saved_settings_normalised`).
-/

namespace Multihead.Program

open Machine SelectionText Text

variable {files : FileSystem} {working : Location} {path layoutPath : FilePath} {layout : Layout}
  {settings : Settings} {file : Option FilePath} {s : Machine} {a : Arrangement}

/-! ## Loading -/

/-- The arrangement is what saved settings say about the monitors of a layout. The word for every
monitor gives the mode `all`, any other text leaves the saved mode; the numbers of a text that can
be read select the monitors that they name, and without such a text none is selected. -/
structure Restores (layout : Layout) (fullscreen : FullscreenSettings) (a : Arrangement) : Prop
    where
  catalog : a.catalog = (Arrangement.ofSource layout.source).value.catalog
  mode : a.mode = if fullscreen.selection = "all" then .all else fullscreen.mode
  positions : ∀ p, p ∈ a.selection.positions ↔
    (∃ written, parse fullscreen.selection = .ok (.positions written)) ∧
      ∃ n, HasNumber fullscreen.selection.toList n ∧ (1 ≤ n ∧ n ≤ a.count) ∧ p = n - 1

theorem positions_ofSource (layout : Layout) :
    (Arrangement.ofSource layout.source).value.selection.positions = ∅ := by
  change (Arrangement.ofDisplays layout.source.enumerate.value).value.selection.positions = ∅
  cases layout.source.enumerate.value <;> rfl

theorem restores_restore (layout : Layout) (fullscreen : FullscreenSettings) :
    Restores layout fullscreen (Session.restore layout fullscreen).value := by
  let start := unselected layout fullscreen.mode
  have hnone (p : Nat) : p ∉ start.selection.positions := by
    change p ∉ (Arrangement.ofSource layout.source).value.selection.positions
    rw [positions_ofSource]
    exact SortedSet.not_mem_empty p
  have hall : fullscreen.selection = "all" ↔ parse fullscreen.selection = .ok .all :=
    parse_eq_all_iff.symm
  rw [value_restore, Arrangement.on_applySettings]
  cases hparse : parse fullscreen.selection with
  | error e =>
    rw [hparse] at hall
    have hother : fullscreen.selection ≠ "all" := fun h => by cases hall.1 h
    refine ⟨rfl, (if_neg hother).symm, fun p => iff_of_false (hnone p) ?_⟩
    rintro ⟨⟨written, h⟩, -⟩
    cases hparse.symm.trans h
  | ok said =>
    rw [hparse] at hall
    cases said with
    | all =>
      refine ⟨rfl, (if_pos (hall.2 rfl)).symm, fun p => iff_of_false (hnone p) ?_⟩
      rintro ⟨⟨written, h⟩, -⟩
      cases hparse.symm.trans h
    | positions written =>
      have hother : fullscreen.selection ≠ "all" := fun h => by cases hall.1 h
      refine ⟨rfl, (if_neg hother).symm, fun p => ?_⟩
      rw [and_iff_right ⟨written, hparse⟩]
      exact (Arrangement.accounts_apply start hparse).applied p

/-- Where the layout loads, so does the arrangement. -/
theorem outcomeOf_loadArrangement {s₁ : Machine}
    (h : outcomeOf (Session.loadLayout settings file) s = (.ok layout, s₁)) :
    ∃ s', outcomeOf (Session.loadArrangement settings file) s =
      (.ok (Session.restore layout settings.fullscreen).value, s') := by
  obtain ⟨s', hrun, -⟩ := tells_report s₁ (Session.restore layout settings.fullscreen)
  refine ⟨s', ?_⟩
  unfold Session.loadArrangement
  rw [outcomeOf_bind, h]
  exact hrun

/-! ## Runs that edit nothing -/

/-- The settings with the description of an arrangement in place of their `fullscreen` section. -/
def describing (settings : Settings) (a : Arrangement) : Settings :=
  { settings with fullscreen := a.settings.value }

/-- Runs that edit nothing leave the settings as they are until one succeeds, which gives them their
normal form; from then on they do not change. -/
theorem inUse_of_launchAll_unedited {launches : List Launch} {fullscreen : FullscreenSettings}
    {outcomes : List Outcome} {after : FileSystem}
    (hlayout : Session.layoutFrom files working layoutPath = .ok layout)
    (huse : Settings.inUse files working path = { settings with fullscreen })
    (hrestore : (Session.restore layout fullscreen).value = a) (hcount : a.count ≤ 2147483647)
    (hapart : Apart working path layoutPath settings.logging.file)
    (hlaunches : ∀ launch ∈ launches, launch.Edits path layoutPath settings {})
    (hrun : launchAll working files launches = (outcomes, after)) :
    Settings.inUse after working path =
      if ∃ outcome ∈ outcomes, outcome.code = 0 then describing settings a
      else { settings with fullscreen } := by
  -- The description of the arrangement restores it, whichever settings it was restored from.
  induction launches generalizing files fullscreen outcomes with
  | nil =>
    obtain ⟨rfl, rfl⟩ := Prod.mk.inj hrun
    exact huse.trans (if_neg (by simp)).symm
  | cons launch launches ih =>
    obtain ⟨file, hfile, hasks⟩ := hlaunches launch List.mem_cons_self
    have hrest := fun l hl => hlaunches l (List.mem_cons_of_mem _ hl)
    rw [launchAll] at hrun
    rcases hfirst : runOn launch.env launch.arguments (fresh files working launch.timestamp) with
      ⟨outcome, after₁⟩
    rcases hlater : launchAll working after₁.files launches with ⟨outcomes₁, after₂⟩
    simp only [hfirst, hlater] at hrun
    obtain ⟨rfl, rfl⟩ := Prod.mk.inj hrun
    obtain ⟨hlayout', ⟨hcode, b, happly, huse'⟩ | ⟨hcode, huse'⟩⟩ :=
      inUse_of_run huse hlayout hapart hfile hasks hfirst
    · obtain rfl : b = a := by
        rw [hrestore] at happly
        exact (Except.ok.inj happly).symm
      have hcatalog : b.catalog = (Arrangement.ofSource layout.source).value.catalog := by
        rw [← hrestore]
        exact catalog_restore layout fullscreen
      have hafter := ih hlayout' huse' (restore_settings hcatalog hcount) hrest hlater
      rw [if_pos ⟨outcome, List.mem_cons_self, hcode⟩]
      exact hafter.trans (ite_self _)
    · have hafter := ih hlayout' huse' hrestore hrest hlater
      simp only [List.mem_cons, exists_eq_or_imp, hcode, false_or]
      exact hafter

/-- Loading the saved settings. Where a layout loads, so does an arrangement of its monitors,
whatever the saved selection text is, and it has the mode and the selection that the settings stand
for. As long as all positions can be written, the settings that describe it, in place of the saved
ones, load as the same arrangement wherever the layout loads. Let any number of runs of `select`
that edit nothing follow: the settings stay as they were as long as no run exits with code 0, and
after the first one that does they are those that describe the arrangement, for good. -/
theorem saved_settings_normalised {s₁ : Machine}
    (hlayout : outcomeOf (Session.loadLayout settings file) s = (.ok layout, s₁)) :
    ∃ a s', outcomeOf (Session.loadArrangement settings file) s = (.ok a, s') ∧
      Restores layout settings.fullscreen a ∧
      (a.count ≤ 2147483647 →
        (∀ t t₁, outcomeOf (Session.loadLayout settings file) t = (.ok layout, t₁) →
          ∃ t', outcomeOf (Session.loadArrangement (describing settings a) file) t = (.ok a, t')) ∧
        ∀ path layoutPath timestamp launches, file.or settings.layoutFile = some layoutPath →
          ((Settings.load path : StateM Machine Settings).run
            (fresh s.files s.working timestamp)).1 = settings →
          Apart s.working path layoutPath settings.logging.file →
          (∀ launch ∈ launches, launch.Edits path layoutPath settings {}) →
          ∀ outcomes after, launchAll s.working s.files launches = (outcomes, after) →
            ((Settings.load path : StateM Machine Settings).run
              (fresh after s.working timestamp)).1 =
                if ∃ outcome ∈ outcomes, outcome.code = 0 then describing settings a
                else settings) := by
  have hrestores := restores_restore layout settings.fullscreen
  obtain ⟨s', hload⟩ := outcomeOf_loadArrangement hlayout
  refine ⟨_, s', hload, hrestores, fun hcount => ⟨?_, ?_⟩⟩
  · intro t t₁ ht
    have ht' : outcomeOf (Session.loadLayout (describing settings
        (Session.restore layout settings.fullscreen).value) file) t = (.ok layout, t₁) := ht
    obtain ⟨t', hload'⟩ := outcomeOf_loadArrangement ht'
    refine ⟨t', hload'.trans ?_⟩
    rw [describing, restore_settings hrestores.catalog hcount]
  · intro path layoutPath timestamp launches hfile huse hapart hlaunches outcomes after hrun
    have hlayout' : Session.layoutFrom s.files s.working layoutPath = .ok layout := by
      obtain ⟨_, hrun, -⟩ := Session.tells_loadLayout s settings file
      have hamong := congrArg Prod.fst (hrun.symm.trans hlayout)
      obtain ⟨path', hpath, hfrom⟩ := layoutAmong_eq_ok_iff.1 hamong
      obtain rfl := Option.some.inj (hfile.symm.trans hpath)
      exact hfrom
    rw [Settings.run_load path rfl] at huse ⊢
    exact inUse_of_launchAll_unedited hlayout' huse rfl hcount hapart hlaunches hrun

/-- The text of settings whose selection is not written as this program writes it. -/
def untidySettings : String :=
  "\x7b\"fullscreen\":\x7b\"mode\":\"current\",\"selected_monitors\":\"7, 01\"\x7d\x7d"

/-- One display, and a saved selection that names it and a seventh one: without an edit it is saved
without the other, and another run leaves it so. -/
theorem saved_settings_normalised_of_one_display :
    let files : FileSystem :=
      ⟨[(["l"], .file oneDisplay.toUTF8), (["c"], .file untidySettings.toUTF8)]⟩
    let untidy : Settings := { fullscreen := ⟨.current, "7, 01"⟩ }
    ∃ a s' after, outcomeOf (Session.loadArrangement untidy (some "l")) (fresh files [] "") =
        (.ok a, s') ∧
      a.mode = .current ∧ a.selection.positions = .ofList [0] ∧
      launchAll [] files [launchSelect [], launchSelect []] = ([.done, .done], after) ∧
      ((Settings.load "c" : StateM Machine Settings).run (fresh after [] "")).1 =
        { fullscreen := ⟨.current, "1"⟩ } := by
  intro files untidy
  let layout : Layout := ⟨[⟨⟨0, 0, 100, 100⟩, none⟩]⟩
  have hread : files.readText [] "l" = .ok oneDisplay := rfl
  have hparse : Json.parse Layout.reader oneDisplay = .ok layout :=
    toOption_eq_some_iff.1 (by decide +kernel)
  have hfrom : Session.layoutFrom files [] "l" = .ok layout :=
    layoutFrom_eq_ok_iff.2 ⟨oneDisplay, hread, hparse⟩
  obtain ⟨s₁, hlayout, -⟩ := Session.tells_loadLayout (fresh files [] "") untidy (some "l")
  replace hlayout : outcomeOf (Session.loadLayout untidy (some "l")) (fresh files [] "") =
      (.ok layout, s₁) :=
    hlayout.trans (congrArg (·, s₁) (layoutAmong_eq_ok_iff.2 ⟨"l", rfl, hfrom⟩))
  have hload : ((Settings.load "c" : StateM Machine Settings).run (fresh files [] "")).1 =
      untidy := by decide +kernel
  have hedits : ∀ launch ∈ [launchSelect [], launchSelect []], launch.Edits "c" "l" untidy {} := by
    have hselect : (launchSelect []).Edits "c" "l" untidy {} := ⟨some "l", rfl, _, rfl, rfl, rfl⟩
    simpa using hselect
  have houtcomes : (launchAll [] files [launchSelect [], launchSelect []]).1 = [.done, .done] := by
    decide +kernel
  rcases hrun : launchAll [] files [launchSelect [], launchSelect []] with ⟨outcomes, after⟩
  obtain rfl : outcomes = [.done, .done] := by rwa [hrun] at houtcomes
  obtain ⟨a, s', harrangement, hrestores, hnormal⟩ := saved_settings_normalised hlayout
  obtain ⟨_, hrestored⟩ := outcomeOf_loadArrangement hlayout
  obtain rfl : a = (Session.restore layout untidy.fullscreen).value :=
    Except.ok.inj (congrArg Prod.fst (harrangement.symm.trans hrestored))
  obtain ⟨-, hruns⟩ := hnormal (by decide +kernel)
  have hafter := hruns "c" "l" "" _ rfl hload ⟨by decide, nofun⟩ hedits _ after hrun
  refine ⟨_, s', after, harrangement, hrestores.mode, by decide +kernel, rfl, ?_⟩
  refine (hafter.trans (if_pos ⟨.done, List.mem_cons_self, rfl⟩)).trans ?_
  decide +kernel

end Multihead.Program
