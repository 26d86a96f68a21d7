import VersionCatalog.Generate
import VersionCatalog.Proofs.FileTree.Directories

namespace VersionCatalog

namespace FileTree

/-- What an action gives on a file tree, and the tree after it. -/
def run {α : Type} (tree : FileTree) (action : StateM FileTree α) : α × FileTree :=
  StateT.run action tree

variable {α β : Type} (tree : FileTree)

theorem run_bind (action : StateM FileTree α) (next : α → StateM FileTree β) :
    tree.run (action >>= next) = (tree.run action).2.run (next (tree.run action).1) := rfl

theorem run_isFile (path : Path) : tree.run (Storage.isFile path) = (tree.isFile path, tree) := rfl

theorem run_doesExist (path : Path) :
    tree.run (Storage.doesExist path) = ((tree.find? path).isSome, tree) := rfl

theorem run_readText (path : Path) :
    tree.run (Storage.readText path) = ((tree.readText path).mapError Fault.message, tree) := rfl

theorem run_writeText (path : Path) (text : String) :
    tree.run (Storage.writeText path text) =
      match tree.write path text.toUTF8 with
      | .ok after => (.ok (), after)
      | .error fault => (.error fault.message, tree) := by
  have hrun : tree.run (Storage.writeText path text) = StateT.run
      (match tree.write path text.toUTF8 with
        | .ok after => do set after; return .ok ()
        | .error fault => return .error fault.message :
          StateM FileTree (Except String Unit)) tree := rfl
  rw [hrun]
  split <;> rfl

theorem run_ensureDirectory (path : Path) :
    tree.run (Storage.ensureDirectory path) =
      if (tree.find? path).isSome then (.ok (), tree)
      else ((tree.createDirectories path).1.mapError Fault.message,
        (tree.createDirectories path).2) := by
  rw [Storage.ensureDirectory, run_bind, run_doesExist]
  split_ifs <;> rfl

/-- A file is all it takes. -/
theorem run_ensureDirectory_of_isFile {path : Path} (h : tree.isFile path = true) :
    tree.run (Storage.ensureDirectory path) = (.ok (), tree) := by
  rw [run_ensureDirectory, if_pos (isSome_find?_of_isFile h)]

/-- The tree after a directory was ensured. -/
def withDirectory (path : Path) : FileTree :=
  (tree.run (Storage.ensureDirectory path)).2

variable {tree}

/-- All that is made is directories at the path and above it. -/
theorem changes_withDirectory (tree : FileTree) (path : Path) :
    Changes (fun location => ∃ p ∈ path :: path.parents,
        (tree.withDirectory path).locate p = .ok location)
      (fun _ => False) tree (tree.withDirectory path) := by
  unfold withDirectory
  rw [run_ensureDirectory]
  split_ifs
  · exact .refl tree
  · exact changes_createAll tree (path :: path.parents)

/-- A directory that could be ensured is there, or its path led somewhere already and nothing was
done. The empty path needs no directory. -/
theorem ensured_cases {path : Path} (h : (tree.run (Storage.ensureDirectory path)).1 = .ok ()) :
    path.text = "" ∨ ((tree.find? path).isSome ∧ tree.withDirectory path = tree) ∨
      (tree.withDirectory path).isDirectory path = true := by
  unfold withDirectory
  rw [run_ensureDirectory] at h ⊢
  split_ifs at h ⊢ with hfind
  · exact .inr (.inl ⟨hfind, rfl⟩)
  · have hcreated : (tree.createDirectories path).1 = .ok () := by
      cases hresult : (tree.createDirectories path).1 with
      | ok _ => rfl
      | error fault => simp [hresult, Except.mapError] at h
    exact (isDirectory_of_createDirectories hcreated).imp id .inr

/-- Once a directory could be ensured it needs nothing more, whatever else is made or written. -/
theorem run_ensureDirectory_again {made written : Location → Prop} {after : FileTree} {path : Path}
    (h : (tree.run (Storage.ensureDirectory path)).1 = .ok ())
    (hchanges : Changes made written (tree.withDirectory path) after) :
    after.run (Storage.ensureDirectory path) = (.ok (), after) := by
  have hthere : path.text = "" ∨ ((tree.withDirectory path).find? path).isSome := by
    rcases ensured_cases h with hempty | ⟨hfind, hsame⟩ | hdirectory
    · exact .inl hempty
    · exact .inr (by rwa [hsame])
    · obtain ⟨location, hlocate, hentry⟩ := isDirectory_iff.mp hdirectory
      exact .inr (by simp [find?, hlocate, hentry])
  rw [run_ensureDirectory]
  rcases hthere with hempty | hfind
  · have hcreate : after.createDirectories path = (.ok (), after) := by
      rw [createDirectories, createAll, if_pos hempty]
    split_ifs
    · rfl
    · rw [hcreate]
      rfl
  · rw [if_pos (hchanges.isSome_find? hfind)]

theorem run_firstMissing? (paths : List Path) :
    tree.run (Batch.firstMissing? paths) = (paths.find? (!tree.isFile ·), tree) := by
  induction paths with
  | nil => rfl
  | cons path paths ih =>
    rw [Batch.firstMissing?, run_bind, run_isFile, List.find?_cons]
    cases tree.isFile path with
    | false => rfl
    | true => exact ih

private theorem run_readCatalogText (path : Path) :
    tree.run (readCatalogText path) =
      (if tree.isFile path then
        (tree.readText path).mapError fun fault => .catalog path (.unreadable "file" fault.message)
      else .error (.catalogNotFound path), tree) := by
  rw [readCatalogText, run_bind, run_isFile]
  cases tree.isFile path with
  | false => rfl
  | true =>
    rw [if_pos rfl, if_pos rfl, run_bind, run_readText]
    cases tree.readText path <;> rfl

/-- The catalog at a path. -/
def load (tree : FileTree) (path : Path) : Except Error Catalog :=
  (tree.run (loadCatalog path)).1

private theorem load_eq (path : Path) :
    tree.load path = (tree.run (readCatalogText path)).1.bind (Catalog.ofText path) := by
  rw [load, loadCatalog, run_bind]
  cases (tree.run (readCatalogText path)).1 <;> rfl

theorem run_loadCatalog (path : Path) : tree.run (loadCatalog path) = (tree.load path, tree) := by
  have hstate : (tree.run (readCatalogText path)).2 = tree := by rw [run_readCatalogText]
  refine Prod.ext rfl ?_
  rw [loadCatalog, run_bind, hstate]
  cases (tree.run (readCatalogText path)).1 <;> rfl

/-- Two trees with the same file at a path have the same catalog there. -/
theorem load_of_read {before after : FileTree} {path : Path} {content : ByteArray}
    (hbefore : before.read path = .ok content) (hafter : after.read path = .ok content) :
    after.load path = before.load path := by
  have hfile : after.isFile path = before.isFile path := by
    rw [isFile_iff.mpr ⟨content, hbefore⟩, isFile_iff.mpr ⟨content, hafter⟩]
  have htext : after.readText path = before.readText path := by
    rw [readText, readText, hbefore, hafter]
  rw [load_eq, load_eq, run_readCatalogText, run_readCatalogText, hfile, htext]

theorem readText_of_read {path : Path} {text : String} (h : tree.read path = .ok text.toUTF8) :
    tree.readText path = .ok text := by
  have hvalid : String.fromUTF8? text.toUTF8 = some text := dif_pos text.isValidUTF8
  rw [readText, h]
  dsimp only
  rw [hvalid]

/-- A file with a text has the catalog of the text. -/
theorem load_of_text {path : Path} {text : String} (h : tree.read path = .ok text.toUTF8) :
    tree.load path = Catalog.ofText path text := by
  have hfile := isFile_iff.mpr ⟨_, h⟩
  rw [load_eq, run_readCatalogText, if_pos hfile, readText_of_read h]
  rfl

end FileTree

end VersionCatalog
