import VersionCatalog.Proofs.FileTree.Actions
import VersionCatalog.Proofs.FileTree.Files
import VersionCatalog.Proofs.Generate.Outcome
import VersionCatalog.Proofs.Listing.Agreement
import VersionCatalog.Proofs.Path.FileName

namespace VersionCatalog

/-- What a catalog comes to. -/
inductive Assessment where
  | notToml
  | failed (error : Error)
  | nothingToEmit
  | written (content : Catalog)

/-- What the catalog at a path comes to on a file tree. -/
def FileTree.assess (tree : FileTree) (catalog : Path) : Assessment :=
  if isTomlFile catalog then
    match tree.load catalog with
    | .error error => .failed error
    | .ok content => if content.isBlank then .nothingToEmit else .written content
  else .notToml

/-- What a file with a text comes to. -/
theorem FileTree.assess_of_text {tree : FileTree} {path : Path} {text : String}
    (htoml : isTomlFile path = true) (hread : tree.read path = .ok text.toUTF8) :
    tree.assess path = match Catalog.ofText path text with
      | .error error => .failed error
      | .ok content => if content.isBlank then .nothingToEmit else .written content := by
  rw [assess, if_pos htoml, load_of_text hread]

/-- The licence begins with a slash. -/
theorem slash_mem_preamble (c : Catalog) (options : Kotlin.Options) :
    '/' ∈ (Kotlin.preamble c options).toList := by
  have hlicense : '/' ∈ (Kotlin.licenseHeader options.year).toList := by
    rw [Kotlin.licenseHeader, Text.toList_unlines, List.mem_flatMap]
    exact ⟨"/*", List.mem_cons_self, by decide⟩
  simp only [Kotlin.preamble, String.toList_append, List.mem_append, hlicense, true_or]

private theorem isBlank_source (c : Catalog) (options : Kotlin.Options) :
    Text.isBlank (Kotlin.source c options) = c.isBlank := by
  have hempty : Kotlin.source c options = "" ↔ c.isBlank = true := by
    rw [Kotlin.source_eq_empty_iff, Listing.isBlank_iff, Listing.shownKinds_eq_nil_iff]
  rw [Bool.eq_iff_iff, ← hempty]
  refine ⟨fun hblank => ?_, fun h => by rw [h]; rfl⟩
  rw [Kotlin.source] at hblank ⊢
  by_cases hobjects : (Kotlin.objects c).isEmpty
  · exact if_pos hobjects
  · rw [if_neg hobjects, Text.isBlank, List.all_eq_true] at hblank
    have hmem : '/' ∈ (Kotlin.preamble c options ++ Kotlin.classText c options).toList := by
      rw [String.toList_append]
      exact List.mem_append_left _ (slash_mem_preamble c options)
    exact absurd (hblank '/' hmem) (by decide)

namespace Batch

variable {batch : Batch} {tree before after : FileTree} {catalog : Path} {catalogs : List Path}
  {report : Report}

def classSource (batch : Batch) (catalog : Path) (content : Catalog) : String :=
  Kotlin.source content (batch.options catalog)

def outcome (batch : Batch) (catalog : Path) : Assessment → Outcome
  | .notToml => .skipped .notToml
  | .failed error => .failed error
  | .nothingToEmit => .skipped .nothingToEmit
  | .written _ => .written (batch.outputFile catalog)

/-- Rendering a catalog is loading it and writing its source, wherever the files are. -/
theorem renderCatalog_eq {m : Type → Type} [Monad m] [LawfulMonad m] [Storage m] (batch : Batch)
    (catalog : Path) : (batch.renderCatalog catalog : m (Except Error String)) =
      Except.map (batch.classSource catalog) <$> loadCatalog catalog := by
  rw [renderCatalog, loadCatalog, map_bind]
  refine bind_congr fun result => ?_
  cases result with
  | error error => rw [map_pure, Except.map]
  | ok text =>
    simp only [Kotlin.sourceOfText, Catalog.ofText]
    cases Toml.parse? text with
    | none => rw [map_pure, Except.map]
    | some document => rw [map_pure, Except.map, classSource]

private theorem run_renderCatalog (batch : Batch) (tree : FileTree) (catalog : Path) :
    tree.run (batch.renderCatalog catalog) =
      ((tree.load catalog).map (batch.classSource catalog), tree) := by
  rw [renderCatalog_eq, map_eq_pure_bind, FileTree.run_bind, FileTree.run_loadCatalog]
  rfl

private theorem run_generateOne (batch : Batch) (tree : FileTree) (report : Report)
    (catalog : Path) :
    tree.run (batch.generateOne report catalog) =
      match tree.assess catalog with
      | .written content =>
        match tree.write (batch.outputFile catalog) (batch.classSource catalog content).toUTF8 with
        | .ok after => (.ok (report.add catalog (.written (batch.outputFile catalog))), after)
        | .error fault => (.error (.storage fault.message), tree)
      | assessment => (.ok (report.add catalog (batch.outcome catalog assessment)), tree) := by
  rw [generateOne, FileTree.assess]
  cases isTomlFile catalog with
  | false => rfl
  | true =>
    rw [if_pos rfl, if_pos rfl, FileTree.run_bind, run_renderCatalog]
    cases tree.load catalog with
    | error error => rfl
    | ok content =>
      simp only [Except.map, classSource, isBlank_source]
      cases content.isBlank with
      | true => rfl
      | false =>
        simp only [Bool.false_eq_true, if_false, FileTree.run_bind, FileTree.run_writeText]
        generalize tree.write (batch.outputFile catalog) _ = result
        cases result <;> rfl

private theorem run_generateEach_cons (batch : Batch) (tree : FileTree) (report : Report)
    (catalog : Path)
    (catalogs : List Path) :
    tree.run (batch.generateEach report (catalog :: catalogs)) =
      match tree.run (batch.generateOne report catalog) with
      | (.error error, middle) => (.error error, middle)
      | (.ok next, middle) => middle.run (batch.generateEach next catalogs) := by
  rw [generateEach, FileTree.run_bind]
  rcases tree.run (batch.generateOne report catalog) with ⟨result, middle⟩
  cases result <;> rfl

/-- The locations that a run may write to. -/
def outputs (batch : Batch) (tree : FileTree) (catalogs : List Path) (location : Location) : Prop :=
  ∃ catalog ∈ catalogs, isTomlFile catalog = true ∧
    tree.locate (batch.outputFile catalog) = .ok location

theorem isTomlFile_of_assess {content : Catalog} (h : tree.assess catalog = .written content) :
    isTomlFile catalog = true := by
  unfold FileTree.assess at h
  split_ifs at h with htoml
  exact htoml

/-- A catalog with content is written or ends the run, and any other leaves the files alone. -/
theorem run_generateOne_cases (batch : Batch) (tree : FileTree) (report : Report) (catalog : Path) :
    (∃ content location, tree.assess catalog = .written content ∧
      tree.locate (batch.outputFile catalog) = .ok location ∧
      tree.lookup? location ≠ some .directory ∧
      tree.run (batch.generateOne report catalog) =
        (.ok (report.add catalog (.written (batch.outputFile catalog))),
          tree.put location (.file (batch.classSource catalog content).toUTF8))) ∨
    (∃ error, tree.run (batch.generateOne report catalog) = (.error error, tree)) ∨
    ((∀ content, tree.assess catalog ≠ .written content) ∧
      tree.run (batch.generateOne report catalog) =
        (.ok (report.add catalog (batch.outcome catalog (tree.assess catalog))), tree)) := by
  rw [run_generateOne]
  cases hassess : tree.assess catalog with
  | written content =>
    dsimp only
    cases hwrite : tree.write (batch.outputFile catalog)
        (batch.classSource catalog content).toUTF8 with
    | error fault => exact .inr (.inl ⟨.storage fault.message, rfl⟩)
    | ok after =>
      obtain ⟨location, hlocate, hentry, hafter⟩ := FileTree.write_eq_ok_iff.mp hwrite
      exact .inl ⟨content, location, rfl, hlocate, hentry, by rw [hafter]⟩
  | _ => exact .inr (.inr ⟨by simp, rfl⟩)

private theorem changes_generateOne (batch : Batch) (tree : FileTree) (report : Report)
    (catalog : Path) :
    FileTree.Changes (fun _ => False) (batch.outputs tree [catalog]) tree
      (tree.run (batch.generateOne report catalog)).2 := by
  rcases run_generateOne_cases batch tree report catalog with
    ⟨content, location, hassess, hlocate, hentry, hrun⟩ | ⟨error, hrun⟩ | ⟨-, hrun⟩
  · rw [hrun]
    refine (FileTree.changes_put_file hentry _).mono (fun _ => id) ?_
    rintro _ rfl
    exact ⟨catalog, by simp, isTomlFile_of_assess hassess, hlocate⟩
  · rw [hrun]
    exact .refl tree
  · rw [hrun]
    exact .refl tree

/-- A run over catalogs writes the files of their classes only, also when it ends in an error. -/
theorem changes_generateEach (batch : Batch) (tree : FileTree) (report : Report)
    (catalogs : List Path) :
    FileTree.Changes (fun _ => False) (batch.outputs tree catalogs) tree
      (tree.run (batch.generateEach report catalogs)).2 := by
  induction catalogs generalizing tree report with
  | nil => exact .refl tree
  | cons catalog catalogs ih =>
    have hone := changes_generateOne batch tree report catalog
    rw [run_generateEach_cons]
    rcases hresult : tree.run (batch.generateOne report catalog) with ⟨result, middle⟩
    rw [hresult] at hone
    have hfirst : FileTree.Changes (fun _ => False) (batch.outputs tree (catalog :: catalogs)) tree
        middle := by
      refine hone.mono (fun _ => id) ?_
      rintro location ⟨c, hc, houtput⟩
      exact ⟨c, by simp [List.mem_singleton.mp hc], houtput⟩
    cases result with
    | error error => exact hfirst
    | ok next =>
      refine hfirst.trans ((ih middle next).mono (fun _ => id) ?_)
      rintro location ⟨c, hc, htoml, hlocate⟩
      exact ⟨c, by simp [hc], htoml, hone.locate_iff.mp hlocate⟩

/-- Whether the file of a catalog's class, if there is one, can be written. -/
def Writable (batch : Batch) (tree : FileTree) (catalog : Path) : Prop :=
  ∀ content, tree.assess catalog = .written content →
    ∃ location, tree.locate (batch.outputFile catalog) = .ok location ∧
      tree.lookup? location ≠ some .directory

/-- The file of a catalog's class, if there is one. -/
def writing? (batch : Batch) (tree : FileTree) (catalog : Path) : Option (Location × ByteArray) :=
  match tree.assess catalog, tree.locate (batch.outputFile catalog) with
  | .written content, .ok location =>
    some (location, (batch.classSource catalog content).toUTF8)
  | _, _ => none

theorem writing?_eq_some_iff {file : Location × ByteArray} :
    batch.writing? tree catalog = some file ↔
      ∃ content, tree.assess catalog = .written content ∧
        tree.locate (batch.outputFile catalog) = .ok file.1 ∧
        file.2 = (batch.classSource catalog content).toUTF8 := by
  obtain ⟨location, text⟩ := file
  unfold writing?
  cases tree.assess catalog with
  | written content =>
    cases tree.locate (batch.outputFile catalog) with
    | ok there => simp [eq_comm]
    | error fault => simp
  | _ => simp

section Stable

variable {made : Location → Prop} {others : FileTree}

/-- Writing classes changes nothing about a catalog that is there. -/
theorem assess_of_changes (h : FileTree.Changes made (batch.outputs others catalogs) before after)
    (hfile : before.isFile catalog = true) : after.assess catalog = before.assess catalog := by
  unfold FileTree.assess
  cases htoml : isTomlFile catalog with
  | false => rfl
  | true =>
    obtain ⟨content, hread⟩ := FileTree.isFile_iff.mp hfile
    have hafter : after.read catalog = .ok content := by
      refine h.read hread fun location hlocate houtput => ?_
      obtain ⟨other, -, -, hother⟩ := houtput
      exact ne_of_isTomlFile htoml hlocate hother rfl
    rw [FileTree.load_of_read hread hafter]

variable (h : FileTree.Changes (fun _ => False) (batch.outputs others catalogs) before after)

include h

private theorem writable_of_changes (hfile : before.isFile catalog = true) :
    batch.Writable after catalog ↔ batch.Writable before catalog := by
  unfold Writable
  rw [assess_of_changes h hfile]
  simp only [h.locate_iff, ne_eq, h.directory_iff id]

private theorem writing?_of_changes (hfile : before.isFile catalog = true) :
    batch.writing? after catalog = batch.writing? before catalog := by
  unfold writing?
  rw [assess_of_changes h hfile]
  cases hbefore : before.locate (batch.outputFile catalog) with
  | ok location => rw [h.locate hbefore]
  | error fault =>
    cases hafter : after.locate (batch.outputFile catalog) with
    | ok location => simp [h.locate_iff.mp hafter] at hbefore
    | error fault => cases before.assess catalog <;> rfl

private theorem outcomes_of_changes {paths : List Path}
    (hfiles : ∀ c ∈ paths, before.isFile c = true) :
    (paths.map fun c => (c, batch.outcome c (after.assess c))) =
      paths.map fun c => (c, batch.outcome c (before.assess c)) :=
  List.map_congr_left fun c hc => by rw [assess_of_changes h (hfiles c hc)]

private theorem writings_of_changes {paths : List Path}
    (hfiles : ∀ c ∈ paths, before.isFile c = true) :
    paths.filterMap (batch.writing? after) = paths.filterMap (batch.writing? before) :=
  List.filterMap_congr fun c hc => writing?_of_changes h (hfiles c hc)

end Stable

private theorem run_generateOne_of_writable (h : batch.Writable tree catalog) (report : Report) :
    tree.run (batch.generateOne report catalog) =
      (.ok (report.add catalog (batch.outcome catalog (tree.assess catalog))),
        tree.putFiles (batch.writing? tree catalog).toList) := by
  rw [run_generateOne, writing?]
  cases hassess : tree.assess catalog with
  | written content =>
    obtain ⟨location, hlocate, hentry⟩ := h content hassess
    have hwrite : tree.write (batch.outputFile catalog)
        (batch.classSource catalog content).toUTF8 = .ok _ :=
      FileTree.write_eq_ok_iff.mpr ⟨location, hlocate, hentry, rfl⟩
    simp only [hwrite, hlocate, outcome, Option.toList, FileTree.putFiles]
  | _ => rfl

private theorem writable_of_run_generateOne {next : Report}
    (h : (tree.run (batch.generateOne report catalog)).1 = .ok next) :
    batch.Writable tree catalog := by
  intro content hassess
  rcases run_generateOne_cases batch tree report catalog with
    ⟨-, location, -, hlocate, hentry, -⟩ | ⟨error, hrun⟩ | ⟨hne, -⟩
  · exact ⟨location, hlocate, hentry⟩
  · simp [hrun] at h
  · exact absurd hassess (hne content)

/-- A run over catalogs that are there succeeds if all the files can be written, and then each
catalog comes to what it came to at the beginning. -/
theorem run_generateEach_of_writable (hfiles : ∀ c ∈ catalogs, tree.isFile c = true)
    (hwritable : ∀ c ∈ catalogs, batch.Writable tree c) (earlier : List (Path × Outcome)) :
    tree.run (batch.generateEach (.ofOutcomes earlier) catalogs) =
      (.ok (.ofOutcomes (earlier ++ catalogs.map fun c => (c, batch.outcome c (tree.assess c)))),
        tree.putFiles (catalogs.filterMap (batch.writing? tree))) := by
  induction catalogs generalizing tree earlier with
  | nil => rw [List.map_nil, List.append_nil]; rfl
  | cons catalog catalogs ih =>
    have hone := run_generateOne_of_writable (hwritable catalog (by simp)) (.ofOutcomes earlier)
    have hchanges := changes_generateOne batch tree (.ofOutcomes earlier) catalog
    rw [hone] at hchanges
    have hfile : ∀ c ∈ catalogs, tree.isFile c = true := fun c hc => hfiles c (by simp [hc])
    have hrest := ih (fun c hc => hchanges.isFile (hfile c hc))
      (fun c hc => (writable_of_changes hchanges (hfile c hc)).mpr (hwritable c (by simp [hc])))
      (earlier ++ [(catalog, batch.outcome catalog (tree.assess catalog))])
    have hfiles' : (catalog :: catalogs).filterMap (batch.writing? tree) =
        (batch.writing? tree catalog).toList ++ catalogs.filterMap (batch.writing? tree) := by
      cases hwriting : batch.writing? tree catalog <;> simp [hwriting]
    rw [outcomes_of_changes hchanges hfile, writings_of_changes hchanges hfile] at hrest
    rw [run_generateEach_cons, hone, hfiles', FileTree.putFiles_append]
    simp only [Report.add_ofOutcomes, hrest, List.map_cons, List.append_assoc,
      List.singleton_append]

private theorem writable_of_run_generateEach {last : Report}
    (hfiles : ∀ c ∈ catalogs, tree.isFile c = true)
    (h : (tree.run (batch.generateEach report catalogs)).1 = .ok last) :
    ∀ c ∈ catalogs, batch.Writable tree c := by
  induction catalogs generalizing tree report with
  | nil => simp
  | cons catalog catalogs ih =>
    have hchanges := changes_generateOne batch tree report catalog
    rw [run_generateEach_cons] at h
    rcases hone : tree.run (batch.generateOne report catalog) with ⟨result, middle⟩
    rw [hone] at h hchanges
    cases result with
    | error error => simp at h
    | ok next =>
      have hfirst : batch.Writable tree catalog := writable_of_run_generateOne (by rw [hone])
      have hfile : ∀ c ∈ catalogs, tree.isFile c = true := fun c hc => hfiles c (by simp [hc])
      have hlater := ih (fun c hc => hchanges.isFile (hfile c hc)) h
      intro c hc
      rcases List.mem_cons.mp hc with rfl | hc
      · exact hfirst
      · exact (writable_of_changes hchanges (hfile c hc)).mp (hlater c hc)

theorem run_generate (batch : Batch) (tree : FileTree) :
    tree.run batch.generate =
      match (tree.run (Storage.ensureDirectory batch.targetDirectory)).1 with
      | .error detail => (.error (.storage detail), tree.withDirectory batch.targetDirectory)
      | .ok () =>
        match batch.catalogs.find? (!(tree.withDirectory batch.targetDirectory).isFile ·) with
        | some path =>
          (.error (.catalogNotFound path), tree.withDirectory batch.targetDirectory)
        | none => (tree.withDirectory batch.targetDirectory).run
            (batch.generateEach (.ofOutcomes []) batch.catalogs) := by
  rw [generate, FileTree.run_bind, ← FileTree.withDirectory]
  cases (tree.run (Storage.ensureDirectory batch.targetDirectory)).1 with
  | error detail => rfl
  | ok _ =>
    simp only [FileTree.run_bind, FileTree.run_firstMissing?]
    cases batch.catalogs.find? (!(tree.withDirectory batch.targetDirectory).isFile ·) with
    | some path => rfl
    | none => rfl

/-- A run succeeds if the directory can be ensured, all catalogs are there and all files can be
written. Then each catalog has come to what it comes to when the directory is there and no file is
written yet, and the files of the classes are written one after the other. -/
theorem run_generate_eq_ok_iff :
    tree.run batch.generate = (.ok report, after) ↔
      (tree.run (Storage.ensureDirectory batch.targetDirectory)).1 = .ok () ∧
      (∀ c ∈ batch.catalogs, (tree.withDirectory batch.targetDirectory).isFile c = true) ∧
      (∀ c ∈ batch.catalogs, batch.Writable (tree.withDirectory batch.targetDirectory) c) ∧
      report = .ofOutcomes (batch.catalogs.map fun c =>
        (c, batch.outcome c ((tree.withDirectory batch.targetDirectory).assess c))) ∧
      after = (tree.withDirectory batch.targetDirectory).putFiles
        (batch.catalogs.filterMap (batch.writing? (tree.withDirectory batch.targetDirectory))) := by
  rw [run_generate]
  cases (tree.run (Storage.ensureDirectory batch.targetDirectory)).1 with
  | error detail => simp
  | ok _ =>
    generalize tree.withDirectory batch.targetDirectory = ready
    cases hmissing : batch.catalogs.find? (!ready.isFile ·) with
    | some path =>
      have hnot := List.find?_some hmissing
      have hmem := List.mem_of_find?_eq_some hmissing
      refine ⟨fun h => by simp at h, fun ⟨_, hfiles, _⟩ => ?_⟩
      simp [hfiles path hmem] at hnot
    | none =>
      have hfiles : ∀ c ∈ batch.catalogs, ready.isFile c = true := by
        simpa using List.find?_eq_none.mp hmissing
      dsimp only
      constructor
      · intro h
        have hwritable := writable_of_run_generateEach hfiles (congrArg Prod.fst h)
        rw [run_generateEach_of_writable hfiles hwritable, List.nil_append] at h
        simp only [Prod.mk.injEq, Except.ok.injEq] at h
        exact ⟨rfl, hfiles, hwritable, h.1.symm, h.2.symm⟩
      · rintro ⟨-, -, hwritable, rfl, rfl⟩
        rw [run_generateEach_of_writable hfiles hwritable, List.nil_append]

/-- A run over catalogs that are there succeeds if nothing stands where the classes go. -/
theorem exists_run_of_free
    (hensured : (tree.run (Storage.ensureDirectory batch.targetDirectory)).1 = .ok ())
    (hfiles : ∀ c ∈ batch.catalogs, (tree.withDirectory batch.targetDirectory).isFile c = true)
    (hfree : ∀ c ∈ batch.catalogs,
      (match (tree.withDirectory batch.targetDirectory).locate (batch.outputFile c) with
        | .ok location => ((tree.withDirectory batch.targetDirectory).lookup? location).isNone
        | .error _ => false) = true) :
    ∃ report after, tree.run batch.generate = (.ok report, after) := by
  refine ⟨_, _, run_generate_eq_ok_iff.mpr ⟨hensured, hfiles, ?_, rfl, rfl⟩⟩
  intro c hc content _
  have hplace := hfree c hc
  generalize tree.withDirectory batch.targetDirectory = ready at *
  cases hlocate : ready.locate (batch.outputFile c) with
  | error fault => simp [hlocate] at hplace
  | ok location =>
    have hnone : ready.lookup? location = none := by simpa [hlocate] using hplace
    exact ⟨location, rfl, by simp [hnone]⟩

/-- From the tree with the directory on, a run that succeeds only writes files of classes. -/
theorem changes_of_run_generate_eq_ok (h : tree.run batch.generate = (.ok report, after)) :
    FileTree.Changes (fun _ => False)
      (batch.outputs (tree.withDirectory batch.targetDirectory) batch.catalogs)
      (tree.withDirectory batch.targetDirectory) after := by
  obtain ⟨-, hfiles, hwritable, -, hafter⟩ := run_generate_eq_ok_iff.mp h
  have hchanges := changes_generateEach batch (tree.withDirectory batch.targetDirectory)
    (.ofOutcomes []) batch.catalogs
  rw [run_generateEach_of_writable hfiles hwritable] at hchanges
  rwa [hafter]

/-- A run that succeeds can be repeated: nothing changes any more. -/
theorem run_generate_again (h : tree.run batch.generate = (.ok report, after)) :
    after.run batch.generate = (.ok report, after) := by
  have hchanges := changes_of_run_generate_eq_ok h
  obtain ⟨hensured, hfiles, hwritable, hreport, hafter⟩ := run_generate_eq_ok_iff.mp h
  have hagain := FileTree.run_ensureDirectory_again hensured hchanges
  have hready : after.withDirectory batch.targetDirectory = after := by
    rw [FileTree.withDirectory, hagain]
  refine run_generate_eq_ok_iff.mpr ⟨by rw [hagain], ?_⟩
  rw [hready]
  refine ⟨fun c hc => hchanges.isFile (hfiles c hc),
    fun c hc => (writable_of_changes hchanges (hfiles c hc)).mpr (hwritable c hc), ?_, ?_⟩
  · rw [outcomes_of_changes hchanges hfiles, hreport]
  · rw [writings_of_changes hchanges hfiles, hafter, FileTree.putFiles_putFiles]

end Batch

/-- A tree with a catalog of every kind, two of them with the same name. -/
def mixedTree : FileTree where
  entries := [
    (["a"], .directory),
    (["a", "libs.toml"], .file "[versions]\nx = '1'\n".toUTF8),
    (["b"], .directory),
    (["b", "libs.toml"], .file "[versions]\nx = '2'\n".toUTF8),
    (["blank.toml"], .file "".toUTF8),
    (["broken.toml"], .file "[".toUTF8),
    (["libs.json"], .file "".toUTF8)]

def mixedBatch : Batch where
  package := "p.q"
  catalogs := [⟨"libs.json"⟩, ⟨"a/libs.toml"⟩, ⟨"broken.toml"⟩, ⟨"b/libs.toml"⟩, ⟨"blank.toml"⟩]
  outputDirectory := ⟨"out"⟩
  version := "1"
  year := 2024

/-- The mixed tree with the directory of the classes. -/
def mixedReady : FileTree :=
  mixedTree.withDirectory mixedBatch.targetDirectory

def libsCatalog (version : String) : Catalog where
  versions := ⟨[("x", { required := version })]⟩

theorem assess_mixed :
    mixedReady.assess ⟨"libs.json"⟩ = .notToml ∧
    mixedReady.assess ⟨"a/libs.toml"⟩ = .written (libsCatalog "1") ∧
    mixedReady.assess ⟨"broken.toml"⟩ =
      .failed (.catalog ⟨"broken.toml"⟩ (.malformed none Toml.refusal)) ∧
    mixedReady.assess ⟨"b/libs.toml"⟩ = .written (libsCatalog "2") ∧
    mixedReady.assess ⟨"blank.toml"⟩ = .nothingToEmit := by
  have hfirst : Catalog.ofText ⟨"a/libs.toml"⟩ "[versions]\nx = '1'\n" =
      .ok (libsCatalog "1") := by decide +kernel
  have hsecond : Catalog.ofText ⟨"b/libs.toml"⟩ "[versions]\nx = '2'\n" =
      .ok (libsCatalog "2") := by decide +kernel
  have hblank : Catalog.ofText ⟨"blank.toml"⟩ "" = .ok {} := by decide
  have hbroken : Catalog.ofText ⟨"broken.toml"⟩ "[" =
      .error (.catalog ⟨"broken.toml"⟩ (.malformed none Toml.refusal)) := by decide
  refine ⟨if_neg (by decide), ?_, ?_, ?_, ?_⟩
  · rw [FileTree.assess_of_text (by decide) rfl, hfirst]
    rfl
  · rw [FileTree.assess_of_text (by decide) rfl, hbroken]
  · rw [FileTree.assess_of_text (by decide) rfl, hsecond]
    rfl
  · rw [FileTree.assess_of_text (by decide) rfl, hblank]
    rfl

theorem run_mixed : ∃ report after, mixedTree.run mixedBatch.generate = (.ok report, after) :=
  Batch.exists_run_of_free (by decide) (by decide) (by decide)

end VersionCatalog
