import Multihead.Proofs.FileSystem.Changes

/-!
# File systems that differ in the content of some files

Two file systems are alike but for some places if these places hold files in both of them, and
everything else is the same (`AlikeBut`). Where a path leads and whether there is something at its
end is then the same in both (`AlikeBut.destination`, `AlikeBut.exists?`), so a request that does
not read those files is answered in the same way. To write a file and to make the directory of a
path leave them alike (`AlikeBut.writeText`, `AlikeBut.makeParent`).
-/

namespace Multihead.FileSystem

variable {fs fs' : FileSystem} {place : Location} {differs : Location → Prop}

/-- Only the contents of the files at the given places differ. -/
structure AlikeBut (differs : Location → Prop) (fs fs' : FileSystem) : Prop where
  node : ∀ l, ¬ differs l → fs'.node? l = fs.node? l
  files : ∀ l, differs l →
    (∃ content, fs.file? l = some content) ∧ ∃ content, fs'.file? l = some content

/-- What is equal is alike, whatever may differ. -/
theorem AlikeBut.of_eq (heq : fs' = fs)
    (hfiles : ∀ l, differs l → ∃ content, fs.file? l = some content) :
    AlikeBut differs fs fs' := by
  subst heq
  exact ⟨fun l _ => rfl, fun l hl => ⟨hfiles l hl, hfiles l hl⟩⟩

/-- File systems stay alike where only the files that may differ change and stay files. -/
theorem AlikeBut.of_sameBut {next next' : FileSystem} (h : AlikeBut differs fs fs')
    (hnext : SameBut differs fs next) (hnext' : SameBut differs fs' next')
    (hfiles : ∀ l, differs l →
      (∃ content, next.file? l = some content) ∧ ∃ content, next'.file? l = some content) :
    AlikeBut differs next next' where
  node l hl := (hnext'.node l hl).trans ((h.node l hl).trans (hnext.node l hl).symm)
  files := hfiles

/-! ## Where paths lead -/

section Paths

variable (h : AlikeBut differs fs fs')
include h

/-- At every place there is the same node, or a file in both. -/
theorem AlikeBut.node_cases (l : Location) :
    fs'.node? l = fs.node? l ∨
      ∃ content content', fs.node? l = some (.file content) ∧
        fs'.node? l = some (.file content') := by
  by_cases hl : differs l
  · obtain ⟨⟨content, hfile⟩, content', hfile'⟩ := h.files l hl
    exact .inr ⟨content, content', file?_eq_some_iff.1 hfile, file?_eq_some_iff.1 hfile'⟩
  · exact .inl (h.node l hl)

theorem AlikeBut.directory_iff (l : Location) :
    fs'.node? l = some .directory ↔ fs.node? l = some .directory := by
  rcases h.node_cases l with hsame | ⟨content, content', hfile, hfile'⟩
  · rw [hsame]
  · rw [hfile, hfile']
    exact iff_of_false nofun nofun

theorem AlikeBut.isSome_node? (l : Location) : (fs'.node? l).isSome = (fs.node? l).isSome := by
  rcases h.node_cases l with hsame | ⟨content, content', hfile, hfile'⟩
  · rw [hsame]
  · rw [hfile, hfile']
    rfl

theorem AlikeBut.enter (location : Location) (name : String) :
    fs'.enter location name = fs.enter location name := by
  unfold FileSystem.enter
  rcases h.node_cases (name :: location) with hsame | ⟨content, content', hfile, hfile'⟩
  · rw [hsame]
  · rw [hfile, hfile']

theorem AlikeBut.walk (start : Location) (names : List String) :
    fs'.walk start names = fs.walk start names := by
  induction names generalizing start with
  | nil => rfl
  | cons name names ih =>
    cases names with
    | nil => rfl
    | cons next names =>
      rw [FileSystem.walk, FileSystem.walk, h.enter]
      exact bind_congr fun location => ih location

theorem AlikeBut.destination (working : Location) (path : FilePath) :
    fs'.destination working path = fs.destination working path := by
  unfold FileSystem.destination
  rw [h.walk]

theorem AlikeBut.exists? (working : Location) (path : FilePath) :
    fs'.exists? working path = fs.exists? working path := by
  unfold FileSystem.exists? find
  rw [h.destination]
  cases fs.destination working path with
  | error e => rfl
  | ok destination =>
    cases destination with
    | directory location => rfl
    | entry location name =>
      simp only [bind, Except.bind]
      rcases h.node_cases (name :: location) with hsame | ⟨content, content', hfile, hfile'⟩
      · rw [hsame]
      · rw [hfile, hfile']
        dsimp only
        split <;> rfl

theorem AlikeBut.fileLocation (working : Location) (path : FilePath) :
    fs'.fileLocation working path = fs.fileLocation working path := by
  unfold FileSystem.fileLocation
  rw [h.destination]
  refine bind_congr fun destination => ?_
  cases destination with
  | directory location => rfl
  | entry location name => simp only [h.directory_iff]

theorem AlikeBut.isDirectory (start : Location) (names : List String) :
    fs'.isDirectory start names = fs.isDirectory start names := by
  unfold FileSystem.isDirectory
  simp only [h.walk, h.directory_iff]

end Paths

/-! ## Changing both -/

/-- Two results of a request: the same error, or file systems that are alike. -/
inductive AlikeResults (differs : Location → Prop) :
    Except FileError FileSystem → Except FileError FileSystem → Prop
  | ok {fs fs' : FileSystem} (h : AlikeBut differs fs fs') : AlikeResults differs (.ok fs) (.ok fs')
  | error (e : FileError) : AlikeResults differs (.error e) (.error e)

/-- To put the same node into two file systems makes them equal at its place. -/
theorem node?_put_congr {l : Location} (node : FileNode)
    (hother : l ≠ place → fs'.node? l = fs.node? l) :
    (fs'.put place node).node? l = (fs.put place node).node? l := by
  by_cases hplace : l = place
  · subst hplace
    cases l with
    | nil => rfl
    | cons name outer =>
      have hne : name :: outer ≠ [] := List.cons_ne_nil _ _
      rw [node?_put_self fs hne, node?_put_self fs' hne]
  · rw [node?_put_of_ne fs hplace, node?_put_of_ne fs' hplace, hother hplace]

section Changes

variable (h : AlikeBut differs fs fs')
include h

/-- Files may be put at a place of both: the same file, or any two where they may differ. -/
theorem AlikeBut.put_file (place : Location) {content content' : ByteArray}
    (hsame : ¬ differs place → content' = content) :
    AlikeBut differs (fs.put place (.file content)) (fs'.put place (.file content')) where
  node l hl := by
    by_cases hplace : l = place
    · subst hplace
      rw [hsame hl]
      exact node?_put_congr _ fun _ => h.node l hl
    · rw [node?_put_of_ne _ hplace, node?_put_of_ne _ hplace, h.node l hl]
  files l hl := by
    by_cases hplace : l = place
    · subst hplace
      have hne : l ≠ [] := by
        rintro rfl
        obtain ⟨⟨content, hfile⟩, -⟩ := h.files [] hl
        cases hfile
      exact ⟨⟨_, file?_put_self hne _⟩, _, file?_put_self hne _⟩
    · simp only [file?, node?_put_of_ne _ hplace]
      exact h.files l hl

/-- A directory may be put in both where there is nothing. -/
theorem AlikeBut.put_directory (hnone : fs.node? place = none) :
    AlikeBut differs (fs.put place .directory) (fs'.put place .directory) := by
  have hnowhere (l : Location) (hl : differs l) : l ≠ place := by
    rintro rfl
    obtain ⟨⟨content, hfile⟩, -⟩ := h.files l hl
    rw [file?_eq_some_iff, hnone] at hfile
    cases hfile
  constructor
  · intro l hl
    exact node?_put_congr _ fun _ => h.node l hl
  · intro l hl
    simp only [file?, node?_put_of_ne _ (hnowhere l hl)]
    exact h.files l hl

theorem AlikeBut.writeText (working : Location) (path : FilePath) (text : String) :
    AlikeResults differs (fs.writeText working path text) (fs'.writeText working path text) := by
  unfold FileSystem.writeText
  rw [h.fileLocation]
  cases fs.fileLocation working path with
  | error e => exact .error e
  | ok place => exact .ok (h.put_file place fun _ => rfl)

theorem AlikeBut.makeDirectory (start : Location) (names : List String) :
    AlikeResults differs (fs.makeDirectory start names) (fs'.makeDirectory start names) := by
  unfold FileSystem.makeDirectory
  rw [h.walk]
  cases fs.walk start names with
  | error e => exact .error e
  | ok destination =>
    cases destination with
    | directory location => exact .error _
    | entry location name =>
      simp only [bind, Except.bind, h.isSome_node?]
      split
      · exact .error _
      · next hnone => exact .ok (h.put_directory (by simpa using hnone))

theorem AlikeBut.ensureDirectory (start : Location) (names : List String) :
    AlikeResults differs (fs.ensureDirectory start names) (fs'.ensureDirectory start names) := by
  unfold FileSystem.ensureDirectory
  rw [h.isDirectory]
  have hmade := h.makeDirectory start names
  generalize fs.makeDirectory start names = result, fs'.makeDirectory start names = result' at hmade
  cases hmade with
  | ok hmade => exact .ok hmade
  | error e =>
    dsimp only
    split
    · exact .ok h
    · exact .error e

theorem AlikeBut.settle {result result' : Except FileError FileSystem}
    (hresults : AlikeResults differs result result') :
    (fs'.settle result').1 = (fs.settle result).1 ∧
      AlikeBut differs (fs.settle result).2 (fs'.settle result').2 := by
  cases hresults with
  | ok hchanged => exact ⟨rfl, hchanged⟩
  | error e => exact ⟨rfl, h⟩

theorem AlikeBut.makeDirectories (start : Location) (names : List String) :
    (fs'.makeDirectories start names).1 = (fs.makeDirectories start names).1 ∧
      AlikeBut differs (fs.makeDirectories start names).2 (fs'.makeDirectories start names).2 := by
  induction names with
  | nil => exact ⟨rfl, h⟩
  | cons name outer ih =>
    have hensured := h.ensureDirectory start (name :: outer).reverse
    have hsettled := h.settle hensured
    rw [FileSystem.makeDirectories, FileSystem.makeDirectories]
    generalize fs.ensureDirectory start (name :: outer).reverse = result,
      fs'.ensureDirectory start (name :: outer).reverse = result' at hensured hsettled
    cases hensured with
    | ok hmade => exact hsettled
    | error e =>
      cases e with
      | notFound =>
        obtain ⟨hresult, hmade⟩ := ih
        generalize fs.makeDirectories start outer = inner,
          fs'.makeDirectories start outer = inner' at hresult hmade
        obtain ⟨result, made⟩ := inner
        obtain ⟨result', made'⟩ := inner'
        obtain rfl : result' = result := hresult
        cases result' with
        | error e => exact ⟨rfl, hmade⟩
        | ok => exact hmade.settle (hmade.ensureDirectory start (name :: outer).reverse)
      | _ => exact hsettled

theorem AlikeBut.makeParent (working : Location) (path : FilePath) :
    (fs'.makeParent working path).1 = (fs.makeParent working path).1 ∧
      AlikeBut differs (fs.makeParent working path).2 (fs'.makeParent working path).2 :=
  h.makeDirectories _ _

end Changes

end Multihead.FileSystem
