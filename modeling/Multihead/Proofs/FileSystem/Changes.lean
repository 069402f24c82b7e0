import Multihead.Proofs.FileSystem

/-!
# What changes in a file system

Two relations between a file system and a later one. In the first, only the files at some places
were made or changed (`SameBut`): that is what writing and appending do. In the second, directories
may have been made besides (`Evolves`): that is what making the directory of a path does. In both,
what is read from an untouched file stays readable; in the first, nothing else becomes readable
either. Where the directory of a path cannot be made, the path leads to no file, whatever was made
on the way (`not_reaches_of_makeParent`).
-/

namespace Multihead.FileSystem

open FilePath

variable {fs fs' fs'' : FileSystem} {working location start place : Location} {path : FilePath}
  {names : List String} {changed : Location → Prop} {text : String}

/-! ## The relations -/

/-- Only files at the given places were made or changed. -/
structure SameBut (changed : Location → Prop) (fs fs' : FileSystem) : Prop where
  directory : ∀ l, fs'.node? l = some .directory ↔ fs.node? l = some .directory
  node : ∀ l, ¬ changed l → fs'.node? l = fs.node? l

/-- Only files at the given places were made or changed, and directories were made. -/
structure Evolves (changed : Location → Prop) (fs fs' : FileSystem) : Prop where
  directory : ∀ l, fs.node? l = some .directory → fs'.node? l = some .directory
  file : ∀ l, ¬ changed l → fs'.file? l = fs.file? l

theorem SameBut.refl (changed : Location → Prop) (fs : FileSystem) : SameBut changed fs fs :=
  ⟨fun _ => Iff.rfl, fun _ _ => rfl⟩

theorem SameBut.trans (h : SameBut changed fs fs') (h' : SameBut changed fs' fs'') :
    SameBut changed fs fs'' :=
  ⟨fun l => (h'.directory l).trans (h.directory l),
    fun l hl => (h'.node l hl).trans (h.node l hl)⟩

theorem SameBut.mono {changed' : Location → Prop} (hsub : ∀ l, changed l → changed' l)
    (h : SameBut changed fs fs') : SameBut changed' fs fs' :=
  ⟨h.directory, fun l hl => h.node l fun hc => hl (hsub l hc)⟩

theorem SameBut.file (h : SameBut changed fs fs') (hplace : ¬ changed place) :
    fs'.file? place = fs.file? place := by
  rw [file?, file?, h.node place hplace]

theorem SameBut.evolves (h : SameBut changed fs fs') : Evolves changed fs fs' :=
  ⟨fun l => (h.directory l).2, fun _ => h.file⟩

theorem Evolves.refl (changed : Location → Prop) (fs : FileSystem) : Evolves changed fs fs :=
  (SameBut.refl changed fs).evolves

theorem Evolves.trans (h : Evolves changed fs fs') (h' : Evolves changed fs' fs'') :
    Evolves changed fs fs'' :=
  ⟨fun l hl => h'.directory l (h.directory l hl), fun l hl => (h'.file l hl).trans (h.file l hl)⟩

theorem Evolves.mono {changed' : Location → Prop} (hsub : ∀ l, changed l → changed' l)
    (h : Evolves changed fs fs') : Evolves changed' fs fs' :=
  ⟨h.directory, fun l hl => h.file l fun hc => hl (hsub l hc)⟩

/-! ## Reading on -/

/-- An untouched file is still found. -/
theorem Evolves.find_file {content : ByteArray} (h : Evolves changed fs fs')
    (hplace : ¬ changed (path.place working))
    (hfind : fs.find working path = .ok (.file content)) :
    fs'.find working path = .ok (.file content) := by
  rw [find_eq_file_iff] at hfind ⊢
  obtain ⟨hreaches, hfile⟩ := hfind
  exact ⟨hreaches.mono h.directory, (h.file _ hplace).trans hfile⟩

theorem Evolves.readText (h : Evolves changed fs fs') (hplace : ¬ changed (path.place working))
    (hread : fs.readText working path = .ok text) : fs'.readText working path = .ok text := by
  rw [readText_eq_ok_iff] at hread ⊢
  obtain ⟨content, hfind, htext⟩ := hread
  exact ⟨content, h.find_file hplace hfind, htext⟩

/-- Without new directories, nothing else is found. -/
theorem SameBut.find_file_iff {content : ByteArray} (h : SameBut changed fs fs')
    (hplace : ¬ changed (path.place working)) :
    fs'.find working path = .ok (.file content) ↔ fs.find working path = .ok (.file content) := by
  rw [find_eq_file_iff, find_eq_file_iff, h.file hplace]
  refine and_congr_left fun _ => ?_
  exact ⟨Reaches.mono fun l => (h.directory l).1, Reaches.mono fun l => (h.directory l).2⟩

theorem SameBut.readText_iff (h : SameBut changed fs fs')
    (hplace : ¬ changed (path.place working)) :
    fs'.readText working path = .ok text ↔ fs.readText working path = .ok text := by
  simp only [readText_eq_ok_iff, h.find_file_iff hplace]

/-! ## Writing -/

theorem ne_nil_of_not_directory (h : fs.node? place ≠ some .directory) : place ≠ [] := by
  rintro rfl
  exact h rfl

theorem sameBut_put_file (h : fs.node? place ≠ some .directory) (content : ByteArray) :
    SameBut (· = place) fs (fs.put place (.file content)) where
  directory l := by
    by_cases hl : l = place
    · subst hl
      rw [node?_put_self fs (ne_nil_of_not_directory h)]
      exact iff_of_false nofun h
    · rw [node?_put_of_ne fs hl]
  node l hl := node?_put_of_ne fs hl _

theorem file?_put_self (h : place ≠ []) (content : ByteArray) :
    (fs.put place (.file content)).file? place = some content :=
  file?_eq_some_iff.2 (node?_put_self fs h _)

theorem sameBut_writeText (h : fs.writeText working path text = .ok fs') :
    SameBut (· = path.place working) fs fs' := by
  obtain ⟨-, hnode, rfl⟩ := writeText_eq_ok_iff.1 h
  exact sameBut_put_file hnode _

/-- What was written is read back. -/
theorem readText_writeText (h : fs.writeText working path text = .ok fs') :
    fs'.readText working path = .ok text := by
  have hreaches := (writeText_eq_ok_iff.1 h).1.mono (sameBut_writeText h).evolves.directory
  obtain ⟨hbefore, -, rfl⟩ := writeText_eq_ok_iff.1 h
  have hfile : (fs.put (path.place working) (.file text.toUTF8)).file? (path.place working) =
      some text.toUTF8 := file?_put_self hbefore.place_ne_nil _
  exact readText_eq_ok_iff.2 ⟨_, find_eq_file_iff.2 ⟨hreaches, hfile⟩, dif_pos text.isValidUTF8⟩

/-- A file that can be read can be written. -/
theorem exists_writeText_of_readText {text' : String} (h : fs.readText working path = .ok text') :
    ∃ fs', fs.writeText working path text = .ok fs' := by
  obtain ⟨content, hfind, -⟩ := readText_eq_ok_iff.1 h
  obtain ⟨hreaches, hfile⟩ := find_eq_file_iff.1 hfind
  refine ⟨_, writeText_eq_ok_iff.2 ⟨hreaches, ?_, rfl⟩⟩
  rw [file?_eq_some_iff.1 hfile]
  exact nofun

/-- Opening a file for appending makes it, if it was not there. -/
theorem openAppend_eq_ok (h : fs.openAppend working path = .ok (location, fs')) :
    path.filePlace? working = some location ∧ (∃ content, fs'.file? location = some content) ∧
      SameBut (· = location) fs fs' := by
  obtain ⟨place, hlocation, hopen⟩ := bind_eq_ok_iff.1 h
  obtain ⟨hreaches, hnode, rfl⟩ := fileLocation_eq_ok_iff.1 hlocation
  obtain ⟨rfl, rfl⟩ := Prod.mk.inj (Except.ok.inj hopen)
  have hfile : ∃ content, (fs.put (path.place working)
      (.file (fs.content (path.place working)))).file? (path.place working) = some content :=
    ⟨_, file?_put_self hreaches.place_ne_nil _⟩
  exact ⟨hreaches.filePlace?, hfile, sameBut_put_file hnode _⟩

theorem sameBut_appendText (h : fs.node? place ≠ some .directory) (text : String) :
    SameBut (· = place) fs (fs.appendText place text) := sameBut_put_file h _

/-! ## Making directories -/

theorem isDirectory_singleton {name : String} :
    fs.isDirectory location [name] = true ↔ ∃ l, fs.enter location name = .ok l := by
  by_cases hdot : name = "."
  · simp [isDirectory, walk, enter, hdot]
  · by_cases hdots : name = ".."
    · simp [isDirectory, walk, enter, hdots]
    · by_cases hlong : maxNameBytes < name.utf8ByteSize
      · simp [isDirectory, walk, enter, hdot, hdots, hlong]
      · simp only [isDirectory, walk, enter, hdot, hdots, hlong, if_false, decide_eq_true_iff]
        split <;> simp [*]

/-- Names lead to a directory exactly if they are entered one after the other. -/
theorem isDirectory_iff :
    fs.isDirectory start names = true ↔ ∃ l, names.foldlM fs.enter start = .ok l := by
  rcases List.eq_nil_or_concat names with rfl | ⟨outer, name, rfl⟩
  · exact iff_of_true rfl ⟨start, rfl⟩
  · rw [List.concat_eq_append, isDirectory, walk_append, List.foldlM_append]
    cases outer.foldlM fs.enter start with
    | error e => exact iff_of_false nofun nofun
    | ok location =>
      change fs.isDirectory location [name] = true ↔ ∃ l, [name].foldlM fs.enter location = .ok l
      rw [isDirectory_singleton, List.foldlM_cons]
      simp

/-- A directory is only made where there was nothing. -/
theorem makeDirectory_eq_ok (h : fs.makeDirectory start names = .ok fs') :
    ∃ place, fs.node? place = none ∧ fs' = fs.put place .directory := by
  obtain ⟨destination, -, hmade⟩ := bind_eq_ok_iff.1 h
  cases destination with
  | directory location => cases hmade
  | entry location name =>
    dsimp only at hmade
    split at hmade
    · cases hmade
    · next hnode => exact ⟨name :: location, by simpa using hnode, (Except.ok.inj hmade).symm⟩

/-- Where there is a directory already, none is made. -/
theorem ensureDirectory_of_isDirectory (h : fs.isDirectory start names = true) :
    fs.ensureDirectory start names = .ok fs := by
  have hrefused : fs.makeDirectory start names = .error .alreadyExists := by
    unfold isDirectory at h
    unfold makeDirectory
    split at h
    · next hwalk => rw [hwalk]; rfl
    · next hwalk =>
      rw [hwalk]
      exact if_pos (by rw [of_decide_eq_true h]; rfl)
    · cases h
  rw [ensureDirectory, hrefused]
  exact if_pos h

theorem not_isDirectory_append {inner : List String} (h : fs.isDirectory start names = false) :
    fs.isDirectory start (names ++ inner) = false := by
  rw [Bool.eq_false_iff, Ne, isDirectory_iff] at h ⊢
  rintro ⟨l, hl⟩
  rw [List.foldlM_append] at hl
  obtain ⟨location, houter, -⟩ := bind_eq_ok_iff.1 hl
  exact h ⟨location, houter⟩

/-- To enter a dot is to stay. -/
theorem foldlM_enter_filter (names : List String) :
    (names.filter (· ≠ ".")).foldlM fs.enter start = names.foldlM fs.enter start := by
  induction names generalizing start with
  | nil => rfl
  | cons name names ih =>
    by_cases hdot : name = "."
    · rw [List.filter_cons_of_neg (by simpa using hdot), ih, List.foldlM_cons, enter, if_pos hdot]
      rfl
    · rw [List.filter_cons_of_pos (by simpa using hdot), List.foldlM_cons, List.foldlM_cons]
      exact bind_congr fun location => ih

theorem not_isDirectory_of_ensureDirectory {e : FileError}
    (h : fs.ensureDirectory start names = .error e) : fs.isDirectory start names = false := by
  rw [Bool.eq_false_iff]
  intro hdirectory
  rw [ensureDirectory_of_isDirectory hdirectory] at h
  cases h

theorem evolves_put_directory (h : fs.node? place = none) :
    Evolves (fun _ => False) fs (fs.put place .directory) where
  directory l hl := by
    rwa [node?_put_of_ne fs]
    rintro rfl
    rw [h] at hl
    cases hl
  file l _ := by
    by_cases hl : l = place
    · subst hl
      have hne : l ≠ [] := ne_nil_of_not_directory (by rw [h]; exact nofun)
      rw [file?, file?, node?_put_self fs hne, h]
    · rw [file?, file?, node?_put_of_ne fs hl]

theorem evolves_ensureDirectory (h : fs.ensureDirectory start names = .ok fs') :
    Evolves (fun _ => False) fs fs' := by
  unfold ensureDirectory at h
  split at h
  · next hmade =>
    obtain ⟨place, hnode, rfl⟩ := makeDirectory_eq_ok hmade
    cases h
    exact evolves_put_directory hnode
  · split at h
    · cases h
      exact .refl _ _
    · cases h

theorem settle_eq_error {result : Except FileError FileSystem} {e : FileError}
    (h : fs.settle result = (.error e, fs')) : result = .error e ∧ fs' = fs := by
  cases result with
  | error e' =>
    cases h
    exact ⟨rfl, rfl⟩
  | ok made => cases h

theorem evolves_settle {result : Except FileError FileSystem}
    (h : ∀ made, result = .ok made → Evolves changed fs made) :
    Evolves changed fs (fs.settle result).2 := by
  cases result with
  | error e => exact .refl _ _
  | ok made => exact h made rfl

/-- To make directories changes no file, whether or not all of them can be made. -/
theorem evolves_makeDirectories (fs : FileSystem) (start : Location) (names : List String) :
    Evolves (fun _ => False) fs (fs.makeDirectories start names).2 := by
  induction names with
  | nil => exact .refl _ _
  | cons name outer ih =>
    rw [makeDirectories]
    split
    · split
      · next made hmade =>
        rw [hmade] at ih
        exact ih.trans (evolves_settle fun _ => evolves_ensureDirectory)
      · exact ih
    · exact evolves_settle fun _ => evolves_ensureDirectory

/-- Where directories cannot be made, there is none at the end, even among what was made. -/
theorem not_isDirectory_of_makeDirectories {e : FileError}
    (h : fs.makeDirectories start names = (.error e, fs')) :
    fs'.isDirectory start names.reverse = false := by
  induction names generalizing e fs' with
  | nil => cases h
  | cons name outer ih =>
    rw [makeDirectories] at h
    split at h
    · split at h
      · obtain ⟨hfailed, rfl⟩ := settle_eq_error h
        exact not_isDirectory_of_ensureDirectory hfailed
      -- The directories further out could not be made, so there is nothing to enter within them.
      · next hinner =>
        rw [List.reverse_cons]
        exact not_isDirectory_append (ih h)
    · obtain ⟨hfailed, rfl⟩ := settle_eq_error h
      exact not_isDirectory_of_ensureDirectory hfailed

/-- The names before the last one lead to the directory that a path is in. -/
theorem Reaches.isDirectory_parentNames (h : fs.Reaches working path) :
    fs.isDirectory (path.origin working) path.parentNames = true := by
  obtain ⟨-, location, name, hdestination⟩ := h
  obtain ⟨-, hwalk⟩ := destination_eq_entry_iff.1 hdestination
  obtain ⟨outer, hnames, houter, hdot, -⟩ := walk_eq_entry_iff.1 hwalk
  have hparent : path.parentNames = outer.filter (· ≠ ".") := by
    rw [parentNames, hnames, List.filter_append]
    simp [hdot]
  rw [isDirectory_iff, hparent, foldlM_enter_filter]
  exact ⟨location, houter⟩

/-- Where the directory of a path cannot be made, the path leads to no file. -/
theorem not_reaches_of_makeParent {e : FileError}
    (h : fs.makeParent working path = (.error e, fs')) : ¬ fs'.Reaches working path := by
  intro hreaches
  have hnone := not_isDirectory_of_makeDirectories h
  rw [List.reverse_reverse] at hnone
  exact absurd hreaches.isDirectory_parentNames (by rw [origin, hnone]; exact nofun)

end Multihead.FileSystem
