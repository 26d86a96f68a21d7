import VersionCatalog.Proofs.FileTree.Descent
import VersionCatalog.Proofs.Generate.Accounting

namespace VersionCatalog

namespace Batch

variable {batch : Batch} {tree : FileTree} {catalog : Path}

/-- Nothing is found below a file. -/
theorem locate_outputFile_ne {location : Location}
    (hfile : tree.isFile batch.targetDirectory = true) :
    tree.locate (batch.outputFile catalog) ≠ .ok location := by
  intro hlocate
  have hslash := slash_notMem_classFile catalog
  have hcomponents : (classFile catalog).components ≠ [] := by
    rw [Path.components, Path.segments_of_notMem hslash,
      List.filter_cons_of_pos (isName_classFile catalog)]
    simp
  obtain ⟨content, hread⟩ := FileTree.isFile_iff.mp hfile
  obtain ⟨there, htarget, hentry⟩ := FileTree.read_eq_ok_iff.mp hread
  obtain ⟨base, hbase, hdirectory, -⟩ :=
    FileTree.locate_join (Path.isAbsolute_of_notMem hslash) hcomponents hlocate
  have htext : batch.targetDirectory.text ≠ "" := (FileTree.locate_eq_ok_iff.mp htarget).1
  rw [FileTree.locateBase, if_neg htext, htarget] at hbase
  obtain rfl := Except.ok.inj hbase
  simp [hentry] at hdirectory

private theorem writable_of_isFile (hfile : tree.isFile batch.targetDirectory = true) :
    batch.Writable tree catalog ↔ (tree.assess catalog).isWritten = false := by
  constructor
  · intro hwritable
    cases hassess : tree.assess catalog with
    | written content =>
      obtain ⟨location, hlocate, -⟩ := hwritable content hassess
      exact absurd hlocate (locate_outputFile_ne hfile)
    | _ => rfl
  · intro hnone content hassess
    simp [hassess, Assessment.isWritten] at hnone

/-- With a file in the place of the directory a run succeeds just if it has nothing to write. -/
theorem run_generate_of_isFile {after : FileTree} {report : Report}
    (hfile : tree.isFile batch.targetDirectory = true) :
    tree.run batch.generate = (.ok report, after) ↔
      (∀ c ∈ batch.catalogs, tree.isFile c = true) ∧
      (∀ c ∈ batch.catalogs, (tree.assess c).isWritten = false) ∧
      report = .ofOutcomes (batch.catalogs.map fun c => (c, batch.outcome c (tree.assess c))) ∧
      after = tree := by
  have hensured := tree.run_ensureDirectory_of_isFile hfile
  have hready : tree.withDirectory batch.targetDirectory = tree := by
    rw [FileTree.withDirectory, hensured]
  have hnothing : batch.catalogs.filterMap (batch.writing? tree) = [] := by
    refine List.filterMap_eq_nil_iff.mpr fun c _ => Option.eq_none_iff_forall_ne_some.mpr ?_
    intro file hwriting
    obtain ⟨-, -, hlocate, -⟩ := writing?_eq_some_iff.mp hwriting
    exact locate_outputFile_ne hfile hlocate
  rw [run_generate_eq_ok_iff, hensured, hready, hnothing]
  simp only [writable_of_isFile hfile, FileTree.putFiles, true_and]

/-- After a run that succeeds there is a directory at the path of the classes just if no file stood
there before. With a file there a run succeeds just if all catalogs are there and none has a class
to write. The run then leaves the tree as it is, and reports on its catalogs as ever. -/
theorem target_is_directory_iff (tree : FileTree) (batch : Batch)
    (hpath : batch.targetDirectory.text ≠ "") :
    (∀ report after, tree.run batch.generate = (.ok report, after) →
      (after.isDirectory batch.targetDirectory = true ↔
        tree.isFile batch.targetDirectory = false)) ∧
    (tree.isFile batch.targetDirectory = true → ∀ report after,
      tree.run batch.generate = (.ok report, after) ↔
        (∀ c ∈ batch.catalogs, tree.isFile c = true) ∧
        (∀ c ∈ batch.catalogs, (tree.assess c).isWritten = false) ∧
        report = .ofOutcomes (batch.catalogs.map fun c => (c, batch.outcome c (tree.assess c))) ∧
        after = tree) := by
  refine ⟨fun report after hrun => ?_, fun hfile _ _ => run_generate_of_isFile hfile⟩
  cases hfile : tree.isFile batch.targetDirectory with
  | true =>
    obtain ⟨-, -, -, rfl⟩ := (run_generate_of_isFile hfile).mp hrun
    rw [FileTree.isDirectory_iff_of_isSome (FileTree.isSome_find?_of_isFile hfile), hfile]
  | false =>
    have hchanges := changes_of_run_generate_eq_ok hrun
    obtain ⟨hensured, -⟩ := run_generate_eq_ok_iff.mp hrun
    have hready : (tree.withDirectory batch.targetDirectory).isDirectory batch.targetDirectory =
        true := by
      rcases FileTree.ensured_cases hensured with hempty | ⟨hfind, hsame⟩ | hdirectory
      · exact absurd hempty hpath
      · rw [hsame]
        exact (FileTree.isDirectory_iff_of_isSome hfind).mpr hfile
      · exact hdirectory
    exact iff_of_true (hchanges.isDirectory hready) rfl

end Batch

theorem mixedBatch_makes_directory : ∃ report after,
    mixedTree.run mixedBatch.generate = (.ok report, after) ∧
    after.isDirectory ⟨"out/p/q"⟩ = true := by
  obtain ⟨report, after, hrun⟩ := run_mixed
  have htarget : mixedBatch.targetDirectory = ⟨"out/p/q"⟩ := by decide
  obtain ⟨hdirectory, -⟩ := Batch.target_is_directory_iff mixedTree mixedBatch (by simp [htarget])
  rw [htarget] at hdirectory
  exact ⟨report, after, hrun, (hdirectory report after hrun).mpr (by decide)⟩

/-- A tree with a file in the place of the directory of the classes. -/
def occupiedTree : FileTree where
  entries := [(["out"], .directory), (["out", "p"], .file "x".toUTF8)]

def emptyBatch : Batch :=
  { mixedBatch with package := "p", catalogs := [] }

/-- An empty batch is content with a file there. -/
theorem emptyBatch_keeps_file :
    emptyBatch.targetDirectory = ⟨"out/p"⟩ ∧
    occupiedTree.run emptyBatch.generate = (.ok ⟨[], [], []⟩, occupiedTree) ∧
    occupiedTree.isDirectory ⟨"out/p"⟩ = false := by
  refine ⟨by decide, (Batch.run_generate_of_isFile (by decide)).mpr ?_,
    by decide⟩
  simp [emptyBatch, Report.ofOutcomes]

end VersionCatalog
