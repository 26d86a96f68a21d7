import VersionCatalog.Proofs.FileTree.Actions
import VersionCatalog.Proofs.Path.Location
import VersionCatalog.Settings

namespace VersionCatalog

namespace FileTree

/-- The tree with another current directory. -/
def startedIn (tree : FileTree) (location : Location) : FileTree :=
  { tree with current := location }

variable (tree : FileTree) (location : Location) {path : Path}

@[simp] theorem lookup?_startedIn (other : Location) :
    (tree.startedIn location).lookup? other = tree.lookup? other := rfl

@[simp] theorem startedIn_startedIn (other : Location) :
    (tree.startedIn other).startedIn location = tree.startedIn location := rfl

private theorem put_startedIn (other : Location) (entry : Entry) :
    (tree.startedIn location).put other entry = (tree.put other entry).startedIn location := rfl

private theorem walk_startedIn (here : Location) (names : List String) :
    (tree.startedIn location).walk here names = tree.walk here names := by
  induction names generalizing here with
  | nil => rfl
  | cons name names ih => simp only [walk, lookup?_startedIn, ih]

private theorem locateBy_startedIn (h : path.isAbsolute = true) (segments : List (List Char)) :
    (tree.startedIn location).locateBy path segments = tree.locateBy path segments := by
  simp only [locateBy, walk_startedIn, h, if_true]

private theorem locate_startedIn (h : path.isAbsolute = true) :
    (tree.startedIn location).locate path = tree.locate path :=
  locateBy_startedIn tree location h path.segments

private theorem find?_startedIn (h : path.isAbsolute = true) :
    (tree.startedIn location).find? path = tree.find? path := by
  simp only [find?, locate_startedIn tree location h, lookup?_startedIn]

private theorem isFile_startedIn (h : path.isAbsolute = true) :
    (tree.startedIn location).isFile path = tree.isFile path := by
  simp only [isFile, find?_startedIn tree location h]

private theorem isDirectory_startedIn (h : path.isAbsolute = true) :
    (tree.startedIn location).isDirectory path = tree.isDirectory path := by
  simp only [isDirectory, find?_startedIn tree location h]

private theorem readText_startedIn (h : path.isAbsolute = true) :
    (tree.startedIn location).readText path = tree.readText path := by
  simp only [readText, read, locate_startedIn tree location h, lookup?_startedIn]

private theorem write_startedIn (h : path.isAbsolute = true) (content : ByteArray) :
    (tree.startedIn location).write path content =
      (tree.write path content).map (·.startedIn location) := by
  simp only [write, locate_startedIn tree location h, lookup?_startedIn, put_startedIn]
  cases tree.locate path with
  | error fault => rfl
  | ok there =>
    dsimp only
    split <;> rfl

private theorem createDirectory_startedIn (h : path.isAbsolute = true) :
    (tree.startedIn location).createDirectory path =
      (tree.createDirectory path).map (·.startedIn location) := by
  simp only [createDirectory, locateBy_startedIn tree location h, lookup?_startedIn, put_startedIn]
  cases tree.locateBy path _ with
  | error fault => rfl
  | ok there =>
    dsimp only
    split <;> rfl

private theorem makeOrFind_startedIn (h : path.isAbsolute = true) :
    (tree.startedIn location).makeOrFind path =
      ((tree.makeOrFind path).1, (tree.makeOrFind path).2.startedIn location) := by
  simp only [makeOrFind, createDirectory_startedIn tree location h,
    isDirectory_startedIn tree location h]
  cases tree.createDirectory path <;> rfl

private theorem createAll_startedIn {paths : List Path}
    (h : ∀ path ∈ paths, path.isAbsolute = true) :
    (tree.startedIn location).createAll paths =
      ((tree.createAll paths).1, (tree.createAll paths).2.startedIn location) := by
  induction paths with
  | nil => rfl
  | cons path above ih =>
    have hpath : path.isAbsolute = true := h path (by simp)
    have habove := ih fun p hp => h p (by simp [hp])
    rw [createAll, createAll]
    by_cases hempty : path.text = ""
    · rw [if_pos hempty, if_pos hempty]
    · rw [if_neg hempty, if_neg hempty, createDirectory_startedIn tree location hpath,
        isDirectory_startedIn tree location hpath, habove]
      cases tree.createDirectory path with
      | ok after => rfl
      | error fault =>
        cases fault with
        | missing =>
          rcases tree.createAll above with ⟨result, middle⟩
          cases result with
          | error fault => rfl
          | ok _ => exact makeOrFind_startedIn middle location hpath
        | _ => rfl

/-- An action that does not depend on the current directory. -/
def IgnoresCurrent {α : Type} (action : StateM FileTree α) : Prop :=
  ∀ (tree : FileTree) (location : Location), (tree.startedIn location).run action =
    ((tree.run action).1, (tree.run action).2.startedIn location)

namespace IgnoresCurrent

variable {α β : Type}

theorem pure (value : α) : IgnoresCurrent (pure value : StateM FileTree α) :=
  fun _ _ => rfl

theorem bind {action : StateM FileTree α} {next : α → StateM FileTree β}
    (haction : IgnoresCurrent action) (hnext : ∀ value, IgnoresCurrent (next value)) :
    IgnoresCurrent (action >>= next) := by
  intro tree location
  rw [run_bind, haction tree location, hnext, run_bind]

theorem isFile (h : path.isAbsolute = true) :
    IgnoresCurrent (Storage.isFile path : StateM FileTree Bool) := by
  intro tree location
  rw [run_isFile, run_isFile, isFile_startedIn tree location h]

theorem doesExist (h : path.isAbsolute = true) :
    IgnoresCurrent (Storage.doesExist path : StateM FileTree Bool) := by
  intro tree location
  rw [run_doesExist, run_doesExist, find?_startedIn tree location h]

theorem readText (h : path.isAbsolute = true) :
    IgnoresCurrent (Storage.readText path : StateM FileTree (Except String String)) := by
  intro tree location
  rw [run_readText, run_readText, readText_startedIn tree location h]

theorem writeText (h : path.isAbsolute = true) (text : String) :
    IgnoresCurrent (Storage.writeText path text : StateM FileTree (Except String Unit)) := by
  intro tree location
  rw [run_writeText, run_writeText, write_startedIn tree location h]
  cases tree.write path text.toUTF8 <;> rfl

theorem ensureDirectory (h : path.isAbsolute = true) :
    IgnoresCurrent (Storage.ensureDirectory path : StateM FileTree (Except String Unit)) := by
  intro tree location
  have hpaths : ∀ p ∈ path :: path.parents, p.isAbsolute = true :=
    List.forall_mem_cons.mpr ⟨h, fun p hp => Path.isAbsolute_of_mem_parents h hp⟩
  rw [run_ensureDirectory, run_ensureDirectory, find?_startedIn tree location h,
    createDirectories, createDirectories, createAll_startedIn tree location hpaths]
  split_ifs <;> rfl

theorem findHolding? (name : String) {directories : List Path}
    (h : ∀ directory ∈ directories, directory.isAbsolute = true) :
    IgnoresCurrent (Storage.findHolding? name directories) := by
  induction directories with
  | nil => exact .pure none
  | cons directory directories ih =>
    have hfile := Path.isAbsolute_join_of_base (h directory (by simp)) ⟨name⟩
    refine .bind (.isFile hfile) fun isThere => ?_
    cases isThere with
    | false => exact ih fun d hd => h d (by simp [hd])
    | true => exact .pure (some directory)

end IgnoresCurrent

end FileTree

open FileTree (IgnoresCurrent)

private theorem ignoresCurrent_readCatalogText {catalog : Path} (h : catalog.isAbsolute = true) :
    IgnoresCurrent (readCatalogText catalog) := by
  refine .bind (.isFile h) fun isThere => ?_
  cases isThere with
  | false => exact .pure _
  | true =>
    refine .bind (.readText h) fun text => ?_
    cases text <;> exact .pure _

theorem ignoresCurrent_loadSettings {path : Path} (h : path.isAbsolute = true) :
    IgnoresCurrent (Settings.load path) := by
  refine .bind (.isFile h) fun isThere => ?_
  cases isThere with
  | false => exact .pure _
  | true =>
    refine .bind (.readText h) fun text => ?_
    cases text <;> exact .pure _

namespace Batch

variable {batch : Batch}

private theorem ignoresCurrent_firstMissing? {paths : List Path}
    (h : ∀ path ∈ paths, path.isAbsolute = true) : IgnoresCurrent (firstMissing? paths) := by
  induction paths with
  | nil => exact .pure none
  | cons path paths ih =>
    refine .bind (.isFile (h path (by simp))) fun isThere => ?_
    cases isThere with
    | false => exact .pure (some path)
    | true => exact ih fun p hp => h p (by simp [hp])

private theorem isAbsolute_outputFile (h : batch.targetDirectory.isAbsolute = true)
    (catalog : Path) :
    (batch.outputFile catalog).isAbsolute = true :=
  Path.isAbsolute_join_of_base h _

private theorem ignoresCurrent_renderCatalog {catalog : Path} (h : catalog.isAbsolute = true) :
    IgnoresCurrent (batch.renderCatalog catalog) := by
  refine .bind (ignoresCurrent_readCatalogText h) fun result => ?_
  cases result with
  | error error => exact .pure _
  | ok text =>
    dsimp only
    cases Kotlin.sourceOfText text (batch.options catalog) <;> exact .pure _

variable (htarget : batch.targetDirectory.isAbsolute = true)

include htarget

private theorem ignoresCurrent_generateOne (report : Report) {catalog : Path}
    (h : catalog.isAbsolute = true) : IgnoresCurrent (batch.generateOne report catalog) := by
  rw [generateOne]
  cases isTomlFile catalog with
  | false => exact .pure _
  | true =>
    refine .bind (ignoresCurrent_renderCatalog h) fun result => ?_
    cases result with
    | error error => exact .pure _
    | ok source =>
      dsimp only
      split_ifs
      · exact .pure _
      · refine .bind (.writeText (isAbsolute_outputFile htarget catalog) _) fun result => ?_
        cases result <;> exact .pure _

private theorem ignoresCurrent_generateEach (report : Report) {catalogs : List Path}
    (h : ∀ catalog ∈ catalogs, catalog.isAbsolute = true) :
    IgnoresCurrent (batch.generateEach report catalogs) := by
  induction catalogs generalizing report with
  | nil => exact .pure _
  | cons catalog catalogs ih =>
    refine .bind (ignoresCurrent_generateOne htarget report (h catalog (by simp))) fun result => ?_
    cases result with
    | error error => exact .pure _
    | ok next => exact ih next fun c hc => h c (by simp [hc])

/-- A batch of absolute paths is generated alike from any directory. -/
theorem ignoresCurrent_generate (h : ∀ catalog ∈ batch.catalogs, catalog.isAbsolute = true) :
    IgnoresCurrent batch.generate := by
  refine .bind (.ensureDirectory htarget) fun ensured => ?_
  cases ensured with
  | error detail => exact .pure _
  | ok _ =>
    refine .bind (ignoresCurrent_firstMissing? h) fun missing => ?_
    cases missing with
    | some path => exact .pure _
    | none => exact ignoresCurrent_generateEach htarget {} h

end Batch

end VersionCatalog
