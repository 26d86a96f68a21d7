import Mathlib.Tactic.SplitIfs
import VersionCatalog.FileTree

namespace VersionCatalog.FileTree

/-- What may become of the entry at a location: nothing, a new directory if one may be made there, a
new content if a file may be written there. -/
inductive Change (made written : Prop) : Option Entry → Option Entry → Prop where
  | same (entry : Option Entry) : Change made written entry entry
  | made (h : made) : Change made written none (some .directory)
  | written (h : written) {entry : Option Entry} (hentry : entry ≠ some .directory)
      (content : ByteArray) : Change made written entry (some (.file content))

/-- A tree after operations that make directories only at the locations `made` and write files only
at the locations `written`. They remove nothing, and no file comes in the place of a directory or a
directory in that of a file. -/
structure Changes (made written : Location → Prop) (before after : FileTree) : Prop where
  current : after.current = before.current
  entry (location : Location) :
    Change (made location) (written location) (before.lookup? location) (after.lookup? location)

variable {made written made' written' : Location → Prop} {before middle after : FileTree}

namespace Change

variable {made written made' written' : Prop} {a b c : Option Entry}

theorem trans (h : Change made written a b) (h' : Change made written b c) :
    Change made written a c := by
  cases h' with
  | same => exact h
  | made hmade =>
    cases h with
    | same => exact .made hmade
  | written hwritten hb content =>
    refine .written hwritten ?_ content
    rintro rfl
    cases h with
    | same => exact hb rfl
    | written _ ha _ => exact ha rfl

theorem mono (h : Change made written a b) (hmade : made → made') (hwritten : written → written') :
    Change made' written' a b := by
  cases h with
  | same => exact .same a
  | made hm => exact .made (hmade hm)
  | written hw ha content => exact .written (hwritten hw) ha content

/-- A directory stays. -/
theorem directory (h : Change made written (some .directory) b) : b = some .directory := by
  cases h with
  | same => rfl
  | written _ ha _ => exact absurd rfl ha

/-- A file stays a file. -/
theorem file {content : ByteArray} (h : Change made written (some (.file content)) b) :
    ∃ content', b = some (.file content') := by
  cases h with
  | same => exact ⟨content, rfl⟩
  | written _ _ content' => exact ⟨content', rfl⟩

/-- Where no file may be written the file is the same as before, or there was none. -/
theorem file_iff (h : Change made written a b) (hwritten : ¬ written) (content : ByteArray) :
    b = some (.file content) ↔ a = some (.file content) := by
  cases h with
  | same => exact Iff.rfl
  | made => simp
  | written hw => exact absurd hw hwritten

/-- Where no directory may be made there is one only if there was one. -/
theorem directory_iff (h : Change made written a b) (hmade : ¬ made) :
    b = some .directory ↔ a = some .directory := by
  cases h with
  | same => exact Iff.rfl
  | made hm => exact absurd hm hmade
  | written _ ha _ => simp [ha]

end Change

namespace Changes

theorem refl (tree : FileTree) : Changes made written tree tree :=
  ⟨rfl, fun _ => .same _⟩

theorem trans (h : Changes made written before middle) (h' : Changes made written middle after) :
    Changes made written before after :=
  ⟨h'.current.trans h.current, fun location => (h.entry location).trans (h'.entry location)⟩

theorem mono (h : Changes made written before after)
    (hmade : ∀ location, made location → made' location)
    (hwritten : ∀ location, written location → written' location) :
    Changes made' written' before after :=
  ⟨h.current, fun location => (h.entry location).mono (hmade location) (hwritten location)⟩

theorem directory (h : Changes made written before after) {location : Location}
    (hdirectory : before.lookup? location = some .directory) :
    after.lookup? location = some .directory := by
  have hentry := h.entry location
  rw [hdirectory] at hentry
  exact hentry.directory

theorem file (h : Changes made written before after) {location : Location} {content : ByteArray}
    (hfile : before.lookup? location = some (.file content)) :
    ∃ content', after.lookup? location = some (.file content') := by
  have hentry := h.entry location
  rw [hfile] at hentry
  exact hentry.file

theorem file_iff (h : Changes made written before after) {location : Location}
    (hlocation : ¬ written location) (content : ByteArray) :
    after.lookup? location = some (.file content) ↔
      before.lookup? location = some (.file content) :=
  (h.entry location).file_iff hlocation content

theorem directory_iff (h : Changes made written before after) {location : Location}
    (hlocation : ¬ made location) :
    after.lookup? location = some .directory ↔ before.lookup? location = some .directory :=
  (h.entry location).directory_iff hlocation

end Changes

/-- A walk that succeeds goes through directories only, so more of them do no harm. -/
theorem walk_of_directories {names : List String} {here location : Location}
    (h : ∀ place, before.lookup? place = some .directory → after.lookup? place = some .directory)
    (hwalk : before.walk here names = .ok location) : after.walk here names = .ok location := by
  induction names generalizing here with
  | nil => exact hwalk
  | cons name names ih =>
    cases hhere : before.lookup? here with
    | none => simp [walk, hhere] at hwalk
    | some entry =>
      cases entry with
      | file content => simp [walk, hhere] at hwalk
      | directory =>
        simp only [walk, hhere, h here hhere] at hwalk ⊢
        split_ifs at hwalk ⊢
        · exact ih hwalk
        · exact ih hwalk
        · exact ih hwalk

theorem walk_append (tree : FileTree) (here : Location) (names others : List String) :
    tree.walk here (names ++ others) = (tree.walk here names).bind (tree.walk · others) := by
  induction names generalizing here with
  | nil => rfl
  | cons name names ih =>
    rw [List.cons_append, walk, walk]
    split
    · rfl
    · rfl
    · split_ifs
      · exact ih here
      · exact ih here.dropLast
      · rfl
      · exact ih (here ++ [name])

/-- Names that lead nowhere else end at the directory they start from. -/
theorem walk_stays {tree : FileTree} {here location : Location} {names : List String}
    (hnames : ∀ name ∈ names, name = "" ∨ name = ".")
    (hwalk : tree.walk here names = .ok location) : location = here := by
  induction names with
  | nil => simpa [walk] using hwalk.symm
  | cons name names ih =>
    have hname : name = "" ∨ name = "." := hnames name (by simp)
    rw [walk] at hwalk
    split at hwalk
    · simp at hwalk
    · simp at hwalk
    · rw [if_pos hname] at hwalk
      exact ih (fun name h => hnames name (by simp [h])) hwalk

theorem walk_empty_names {tree : FileTree} {here : Location} {names : List String}
    (hhere : tree.lookup? here = some .directory) (hnames : ∀ name ∈ names, name = "") :
    tree.walk here names = .ok here := by
  induction names with
  | nil => rfl
  | cons name names ih =>
    simp only [walk, hhere, hnames name (by simp), true_or, if_true]
    exact ih fun name h => hnames name (by simp [h])

theorem Changes.locateBy (h : Changes made written before after) {path : Path}
    {segments : List (List Char)} {location : Location}
    (hlocate : before.locateBy path segments = .ok location) :
    after.locateBy path segments = .ok location := by
  unfold FileTree.locateBy at hlocate ⊢
  rw [h.current]
  split_ifs at hlocate ⊢
  · exact walk_of_directories (fun _ => h.directory) hlocate
  · exact walk_of_directories (fun _ => h.directory) hlocate

/-- A path that leads to a location leads there afterwards. -/
theorem Changes.locate (h : Changes made written before after) {path : Path} {location : Location}
    (hlocate : before.locate path = .ok location) : after.locate path = .ok location :=
  h.locateBy hlocate

/-- Files alone open no new ways. -/
theorem Changes.locate_iff (h : Changes (fun _ => False) written before after) {path : Path}
    {location : Location} :
    after.locate path = .ok location ↔ before.locate path = .ok location := by
  refine ⟨fun hlocate => ?_, h.locate⟩
  unfold FileTree.locate FileTree.locateBy at hlocate ⊢
  rw [h.current] at hlocate
  split_ifs at hlocate ⊢
  · exact walk_of_directories (fun _ => (h.directory_iff id).mp) hlocate
  · exact walk_of_directories (fun _ => (h.directory_iff id).mp) hlocate

private theorem find?_eq_some_iff {tree : FileTree} {path : Path} {entry : Entry} :
    tree.find? path = some entry ↔
      ∃ location, tree.locate path = .ok location ∧ tree.lookup? location = some entry := by
  rw [find?]
  cases tree.locate path <;> simp

theorem Changes.isSome_find? (h : Changes made written before after) {path : Path}
    (hfind : (before.find? path).isSome) : (after.find? path).isSome := by
  obtain ⟨entry, hentry⟩ := Option.isSome_iff_exists.mp hfind
  obtain ⟨location, hlocate, hlookup⟩ := find?_eq_some_iff.mp hentry
  rw [Option.isSome_iff_exists]
  cases entry with
  | directory =>
    exact ⟨_, find?_eq_some_iff.mpr ⟨location, h.locate hlocate, h.directory hlookup⟩⟩
  | file content =>
    obtain ⟨content', hafter⟩ := h.file hlookup
    exact ⟨_, find?_eq_some_iff.mpr ⟨location, h.locate hlocate, hafter⟩⟩

theorem read_eq_ok_iff {tree : FileTree} {path : Path} {content : ByteArray} :
    tree.read path = .ok content ↔
      ∃ location, tree.locate path = .ok location ∧
        tree.lookup? location = some (.file content) := by
  unfold read
  cases tree.locate path with
  | error fault => simp
  | ok location =>
    cases hentry : tree.lookup? location with
    | none => simp [hentry]
    | some entry => cases entry <;> simp [hentry]

private theorem read_eq_ok_iff_find? {tree : FileTree} {path : Path} {content : ByteArray} :
    tree.read path = .ok content ↔ tree.find? path = some (.file content) := by
  rw [read_eq_ok_iff, find?_eq_some_iff]

theorem isFile_iff {tree : FileTree} {path : Path} :
    tree.isFile path = true ↔ ∃ content, tree.read path = .ok content := by
  simp only [read_eq_ok_iff_find?, isFile]
  split <;> simp_all

theorem Changes.isFile (h : Changes made written before after) {path : Path}
    (hfile : before.isFile path = true) : after.isFile path = true := by
  obtain ⟨content, hread⟩ := isFile_iff.mp hfile
  obtain ⟨location, hlocate, hentry⟩ := read_eq_ok_iff.mp hread
  obtain ⟨content', hafter⟩ := h.file hentry
  exact isFile_iff.mpr ⟨content', read_eq_ok_iff.mpr ⟨location, h.locate hlocate, hafter⟩⟩

theorem isDirectory_iff {tree : FileTree} {path : Path} :
    tree.isDirectory path = true ↔
      ∃ location, tree.locate path = .ok location ∧ tree.lookup? location = some .directory := by
  rw [← find?_eq_some_iff, isDirectory]
  split <;> simp_all

theorem Changes.isDirectory (h : Changes made written before after) {path : Path}
    (hdirectory : before.isDirectory path = true) : after.isDirectory path = true := by
  obtain ⟨location, hlocate, hentry⟩ := isDirectory_iff.mp hdirectory
  exact isDirectory_iff.mpr ⟨location, h.locate hlocate, h.directory hentry⟩

theorem isSome_find?_of_isFile {tree : FileTree} {path : Path} (h : tree.isFile path = true) :
    (tree.find? path).isSome := by
  obtain ⟨content, hread⟩ := isFile_iff.mp h
  simp [read_eq_ok_iff_find?.mp hread]

/-- What stands at the end of a path is a file or a directory, and not both. -/
theorem isDirectory_iff_of_isSome {tree : FileTree} {path : Path}
    (h : (tree.find? path).isSome) :
    tree.isDirectory path = true ↔ tree.isFile path = false := by
  obtain ⟨entry, hentry⟩ := Option.isSome_iff_exists.mp h
  rw [FileTree.isDirectory, FileTree.isFile, hentry]
  cases entry <;> simp

/-- A file keeps its content if its location is not written. -/
theorem Changes.read (h : Changes made written before after) {path : Path} {content : ByteArray}
    (hread : before.read path = .ok content)
    (hpath : ∀ location, before.locate path = .ok location → ¬ written location) :
    after.read path = .ok content := by
  obtain ⟨location, hlocate, hentry⟩ := read_eq_ok_iff.mp hread
  have hafter := (h.file_iff (hpath location hlocate) content).mpr hentry
  exact read_eq_ok_iff.mpr ⟨location, h.locate hlocate, hafter⟩

theorem lookup?_ne_nil {tree : FileTree} {location : Location}
    (h : tree.lookup? location ≠ some .directory) : location ≠ [] := by
  rintro rfl
  exact h rfl

theorem lookup?_put_self {tree : FileTree} {location : Location}
    (h : tree.lookup? location ≠ some .directory) (entry : Entry) :
    (tree.put location entry).lookup? location = some entry := by
  rw [lookup?_put tree location location entry (lookup?_ne_nil h), if_pos rfl]

theorem changes_put_file {tree : FileTree} {location : Location}
    (h : tree.lookup? location ≠ some .directory) (content : ByteArray) :
    Changes made (· = location) tree (tree.put location (.file content)) := by
  refine ⟨rfl, fun other => ?_⟩
  rw [lookup?_put tree location other _ (lookup?_ne_nil h)]
  split_ifs with hother
  · subst hother
    exact .written rfl h content
  · exact .same _

theorem changes_put_directory {tree : FileTree} {location : Location}
    (h : tree.lookup? location = none) :
    Changes (· = location) written tree (tree.put location .directory) := by
  have hnoDirectory : tree.lookup? location ≠ some .directory := by simp [h]
  refine ⟨rfl, fun other => ?_⟩
  rw [lookup?_put tree location other _ (lookup?_ne_nil hnoDirectory)]
  split_ifs with hother
  · subst hother
    rw [h]
    exact .made rfl
  · exact .same _

theorem write_eq_ok_iff {tree after : FileTree} {path : Path} {content : ByteArray} :
    tree.write path content = .ok after ↔
      ∃ location, tree.locate path = .ok location ∧ tree.lookup? location ≠ some .directory ∧
        after = tree.put location (.file content) := by
  unfold write
  cases tree.locate path with
  | error fault => simp
  | ok location =>
    cases hentry : tree.lookup? location with
    | none => simp [hentry, eq_comm]
    | some entry => cases entry <;> simp [hentry, eq_comm]

end VersionCatalog.FileTree
