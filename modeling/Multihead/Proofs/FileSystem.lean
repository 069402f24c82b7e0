import Multihead.FileSystem
import Multihead.Proofs.Except

/-!
# Places of paths

There are no links, so the names of a path decide which place it leads to (`FilePath.place`); what
the file system decides is whether it leads there (`Reaches`). A path goes on leading to its place
as long as directories stay (`Reaches.mono`), and then reading and writing depend on the file at
that place alone (`find_eq_file_iff`, `writeText_eq_ok_iff`).
-/

namespace Multihead

namespace FilePath

/-- The place that a name leads to from the directory at a location. -/
def step (location : Location) (name : String) : Location :=
  if name = "." then location else if name = ".." then location.tail else name :: location

/-- Where a path begins. -/
def origin (working : Location) (path : FilePath) : Location :=
  if path.isAbsolute then [] else working

/-- The place that a path names, whether or not it leads there. -/
def place (working : Location) (path : FilePath) : Location :=
  path.names.foldl step (path.origin working)

/-- The place of the file that a path names. What ends in a slash is no name of a file. -/
def filePlace? (working : Location) (path : FilePath) : Option Location :=
  if path.endsInSlash then none else some (path.place working)

end FilePath

namespace FileSystem

open FilePath

variable {fs fs' : FileSystem} {working location start : Location} {path : FilePath} {name : String}
  {names : List String}

/-! ## Walking -/

theorem enter_eq_ok_iff {inner : Location} :
    fs.enter location name = .ok inner ↔
      inner = step location name ∧
        (name = "." ∨ name = ".." ∨
          ¬ maxNameBytes < name.utf8ByteSize ∧
            fs.node? (name :: location) = some .directory) := by
  unfold enter step
  split
  · next hdot => simp [hdot, eq_comm]
  · next hdot =>
    split
    · next hdots => simp [hdots, eq_comm]
    · next hdots =>
      split
      · next hlong => simp [hdot, hdots, hlong]
      · next hlong => split <;> simp [*, eq_comm]

/-- To walk is to enter the directories on the way, and then to look at the last name. -/
theorem walk_append (start : Location) (outer : List String) (name : String) :
    fs.walk start (outer ++ [name]) =
      (outer.foldlM fs.enter start >>= fun location => fs.walk location [name]) := by
  induction outer generalizing start with
  | nil => rfl
  | cons first outer ih =>
    obtain ⟨next, names, hnames⟩ : ∃ next names, outer ++ [name] = next :: names :=
      List.exists_cons_of_ne_nil (by simp)
    -- A walk enters its first name only when another one follows, so that one is brought out first.
    rw [List.cons_append, hnames, walk, List.foldlM_cons, bind_assoc]
    refine bind_congr fun location => ?_
    rw [← hnames, ih]

theorem foldlM_enter_eq {inner : Location} (h : names.foldlM fs.enter start = .ok inner) :
    inner = names.foldl step start := by
  induction names generalizing start with
  | nil => exact (Except.ok.inj h).symm
  | cons first names ih =>
    rw [List.foldlM_cons] at h
    obtain ⟨next, henter, hrest⟩ := bind_eq_ok_iff.1 h
    rw [List.foldl_cons, ← (enter_eq_ok_iff.1 henter).1]
    exact ih hrest

/-- A walk ends at a name exactly if the names before it are entered and it is an ordinary one. -/
theorem walk_eq_entry_iff :
    fs.walk start names = .ok (.entry location name) ↔
      ∃ outer, names = outer ++ [name] ∧ outer.foldlM fs.enter start = .ok location ∧
        name ≠ "." ∧ name ≠ ".." ∧ ¬ maxNameBytes < name.utf8ByteSize := by
  constructor
  · intro h
    rcases List.eq_nil_or_concat names with rfl | ⟨outer, last, rfl⟩
    · cases h
    · rw [List.concat_eq_append, walk_append] at h
      obtain ⟨inner, houter, hlast⟩ := bind_eq_ok_iff.1 h
      unfold walk at hlast
      split at hlast
      · cases hlast
      · split at hlast
        · cases hlast
        · split at hlast
          · cases hlast
          · obtain ⟨rfl, rfl⟩ : inner = location ∧ last = name := by simpa using hlast
            exact ⟨outer, by simp, houter, ‹_›, ‹_›, ‹_›⟩
  · rintro ⟨outer, rfl, houter, hdot, hdots, hlong⟩
    rw [walk_append, houter]
    change fs.walk location [name] = _
    rw [walk, if_neg hdot, if_neg hdots, if_neg hlong]

/-! ## Reaching a place -/

/-- The content of the file at a place, if there is one. -/
def file? (fs : FileSystem) (location : Location) : Option ByteArray :=
  match fs.node? location with
  | some (.file content) => some content
  | _ => none

theorem file?_eq_some_iff {content : ByteArray} :
    fs.file? location = some content ↔ fs.node? location = some (.file content) := by
  unfold file?
  split
  · next h => rw [h, Option.some.injEq, Option.some.injEq, FileNode.file.injEq]
  · next h => exact iff_of_false nofun (h content)

/-- Whether a path leads to a name in a directory, where a file may stand. -/
def Reaches (fs : FileSystem) (working : Location) (path : FilePath) : Prop :=
  path.endsInSlash = false ∧
    ∃ location name, fs.destination working path = .ok (.entry location name)

theorem destination_eq_entry_iff :
    fs.destination working path = .ok (.entry location name) ↔
      ¬ (path = "" || '\x00' ∈ path.toList) ∧
        fs.walk (path.origin working) path.names = .ok (.entry location name) := by
  unfold destination
  split
  · next h => exact iff_of_false nofun fun hne => hne.1 h
  · next h => exact (and_iff_right h).symm

/-- A path that leads to a name leads to its place. -/
theorem place_of_destination (h : fs.destination working path = .ok (.entry location name)) :
    path.place working = name :: location := by
  obtain ⟨-, hwalk⟩ := destination_eq_entry_iff.1 h
  obtain ⟨outer, hnames, houter, hdot, hdots, -⟩ := walk_eq_entry_iff.1 hwalk
  rw [place, hnames, List.foldl_append, ← foldlM_enter_eq houter, List.foldl_cons, List.foldl_nil,
    step, if_neg hdot, if_neg hdots]

theorem Reaches.place_ne_nil (h : fs.Reaches working path) : path.place working ≠ [] := by
  obtain ⟨-, location, name, hdestination⟩ := h
  rw [place_of_destination hdestination]
  exact List.cons_ne_nil _ _

theorem Reaches.filePlace? (h : fs.Reaches working path) :
    path.filePlace? working = some (path.place working) := if_neg (by simp [h.1])

theorem find_eq_file_iff {content : ByteArray} :
    fs.find working path = .ok (.file content) ↔
      fs.Reaches working path ∧ fs.file? (path.place working) = some content := by
  rw [file?_eq_some_iff]
  unfold find Reaches
  cases hdestination : fs.destination working path with
  | error e => exact iff_of_false nofun fun h => by simpa using h.1.2
  | ok destination =>
    cases destination with
    | directory location => exact iff_of_false nofun fun h => by simpa using h.1.2
    | entry location name =>
      rw [place_of_destination hdestination]
      simp only [bind, Except.bind]
      split
      · next hnode => simp [hnode, pure, Except.pure]
      · next hnode => cases path.endsInSlash <;> simp [hnode]
      · next hnode => simp [hnode]

theorem fileLocation_eq_ok_iff {place : Location} :
    fs.fileLocation working path = .ok place ↔
      fs.Reaches working path ∧ fs.node? (path.place working) ≠ some .directory ∧
        place = path.place working := by
  unfold fileLocation Reaches
  cases hdestination : fs.destination working path with
  | error e => exact iff_of_false nofun fun h => by simpa using h.1.2
  | ok destination =>
    cases destination with
    | directory location => exact iff_of_false nofun fun h => by simpa using h.1.2
    | entry location name =>
      rw [place_of_destination hdestination]
      simp only [bind, Except.bind]
      split
      · next hrefused => exact iff_of_false nofun fun h => by simp_all
      · next hrefused => simp_all [eq_comm (a := place)]

/-! ## Reading and writing -/

theorem readText_eq_ok_iff {text : String} :
    fs.readText working path = .ok text ↔
      ∃ content, fs.find working path = .ok (.file content) ∧
        String.fromUTF8? content = some text := by
  unfold readText
  cases hfind : fs.find working path with
  | error e => exact iff_of_false nofun fun ⟨_, h, _⟩ => by cases h
  | ok node =>
    cases node with
    | directory => exact iff_of_false nofun fun ⟨_, h, _⟩ => by cases h
    | file content =>
      simp only [bind, Except.bind]
      cases htext : String.fromUTF8? content <;> simp [htext]

theorem exists?_of_readText {text : String} (h : fs.readText working path = .ok text) :
    fs.exists? working path = true := by
  obtain ⟨content, hfind, -⟩ := readText_eq_ok_iff.1 h
  rw [exists?, hfind]
  rfl

/-- What is read is the file of the path. -/
theorem filePlace?_of_readText {text : String} (h : fs.readText working path = .ok text) :
    path.filePlace? working = some (path.place working) := by
  obtain ⟨content, hfind, -⟩ := readText_eq_ok_iff.1 h
  exact (find_eq_file_iff.1 hfind).1.filePlace?

theorem writeText_eq_ok_iff {text : String} :
    fs.writeText working path text = .ok fs' ↔
      fs.Reaches working path ∧ fs.node? (path.place working) ≠ some .directory ∧
        fs' = fs.put (path.place working) (.file text.toUTF8) := by
  unfold writeText
  rw [bind_eq_ok_iff]
  constructor
  · rintro ⟨place, hlocation, hput⟩
    obtain ⟨hreaches, hnode, rfl⟩ := fileLocation_eq_ok_iff.1 hlocation
    exact ⟨hreaches, hnode, (Except.ok.inj hput).symm⟩
  · rintro ⟨hreaches, hnode, rfl⟩
    exact ⟨_, fileLocation_eq_ok_iff.2 ⟨hreaches, hnode, rfl⟩, rfl⟩

/-! ## While directories stay -/

section Directories

variable (hdirectories : ∀ l, fs.node? l = some .directory → fs'.node? l = some .directory)
include hdirectories

theorem enter_mono {inner : Location} (h : fs.enter location name = .ok inner) :
    fs'.enter location name = .ok inner := by
  rw [enter_eq_ok_iff] at h ⊢
  obtain ⟨hinner, hname⟩ := h
  exact ⟨hinner, hname.imp_right (Or.imp_right (And.imp_right (hdirectories _)))⟩

theorem foldlM_enter_mono {inner : Location} (h : names.foldlM fs.enter start = .ok inner) :
    names.foldlM fs'.enter start = .ok inner := by
  induction names generalizing start with
  | nil => exact h
  | cons first names ih =>
    rw [List.foldlM_cons] at h ⊢
    obtain ⟨next, henter, hrest⟩ := bind_eq_ok_iff.1 h
    exact bind_eq_ok_iff.2 ⟨next, enter_mono hdirectories henter, ih hrest⟩

/-- A path goes on leading to its place. -/
theorem Reaches.mono (h : fs.Reaches working path) : fs'.Reaches working path := by
  obtain ⟨hslash, location, name, hdestination⟩ := h
  refine ⟨hslash, location, name, ?_⟩
  rw [destination_eq_entry_iff, walk_eq_entry_iff] at hdestination ⊢
  obtain ⟨hpath, outer, hnames, houter, hname⟩ := hdestination
  exact ⟨hpath, outer, hnames, foldlM_enter_mono hdirectories houter, hname⟩

end Directories

end FileSystem

end Multihead
