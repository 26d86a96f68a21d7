import VersionCatalog.Proofs.FileTree.Descent
import VersionCatalog.Proofs.Generate.Accounting
import VersionCatalog.Proofs.Path.Package

namespace VersionCatalog

namespace Batch

variable {batch : Batch} {tree : FileTree} {catalog : Path} {location : Location}

/-- The names that lead from the output directory to the classes. -/
def packageNames (batch : Batch) : Location :=
  (Path.packagePieces batch.package).map String.ofList

private theorem locate_outputFile
    (hparts : ∀ part ∈ Path.packageParts batch.package, part.isAbsolute = false)
    (h : tree.locate (batch.outputFile catalog) = .ok location) :
    ∃ base, tree.locateBase batch.outputDirectory = .ok base ∧
      tree.lookup? (base ++ batch.packageNames) = some .directory ∧
      location = base ++ batch.packageNames ++ [className catalog ++ "Catalog.kt"] := by
  have hfile := Path.isAbsolute_of_notMem (slash_notMem_classFile catalog)
  have hpackage : (Path.ofPackage batch.package).isAbsolute = false := by
    rw [Bool.eq_false_iff, ne_eq, Path.isAbsolute_ofPackage]
    rintro ⟨part, hpart, habsolute⟩
    simp [hparts part hpart] at habsolute
  have hcomponents : ((Path.ofPackage batch.package).join (classFile catalog)).components =
      Path.packagePieces batch.package ++ [(classFile catalog).text.toList] := by
    rw [Path.components_join hfile, Path.components_ofPackage hparts, Path.components,
      Path.segments_of_notMem (slash_notMem_classFile catalog),
      List.filter_cons_of_pos (isName_classFile catalog), List.filter_nil]
  have hpieces : ∀ segment ∈ Path.packagePieces batch.package,
      Path.isName segment = true ∧ segment ≠ ['.', '.'] := by
    intro segment hsegment
    rw [← Path.components_ofPackage hparts] at hsegment
    obtain ⟨hmem, hname⟩ := List.mem_filter.mp hsegment
    have hdot := Path.dot_notMem_of_mem_segments hmem
    exact ⟨hname, by rintro rfl; simp at hdot⟩
  have hrelative : ((Path.ofPackage batch.package).join (classFile catalog)).isAbsolute = false := by
    simp [Path.isAbsolute_join, hpackage, hfile]
  have houtput : batch.outputFile catalog =
      batch.outputDirectory.join ((Path.ofPackage batch.package).join (classFile catalog)) :=
    Path.join_assoc batch.outputDirectory (Path.ofPackage batch.package) (classFile catalog)
  rw [houtput] at h
  obtain ⟨base, hbase, -, hwalk⟩ := FileTree.locate_join hrelative (by simp [hcomponents]) h
  rw [hcomponents, List.map_append, FileTree.walk_append] at hwalk
  cases hdirectory : tree.walk base ((Path.packagePieces batch.package).map String.ofList) with
  | error fault => simp [hdirectory, Except.bind] at hwalk
  | ok directory =>
    have hthere := FileTree.walk_down hpieces hdirectory
    rw [hdirectory, hthere] at hwalk
    have hlast : ∀ segment ∈ [(classFile catalog).text.toList],
        Path.isName segment = true ∧ segment ≠ ['.', '.'] := by
      intro segment hsegment
      rw [List.mem_singleton.mp hsegment]
      exact ⟨isName_classFile catalog, classFile_ne (by decide)⟩
    refine ⟨base, hbase, FileTree.directory_of_walk_cons hwalk, ?_⟩
    rw [FileTree.walk_down hlast hwalk]
    simp [packageNames, classFile]

/-- The path of a package has nothing in it that leads up. It is absolute if some part of the
package between dots begins with a slash. If none does, its components are the pieces of the
package between dots and slashes, and every file that a run reports as written stands directly in
the directory that they lead to from the output directory. Otherwise the parts before the last one
that begins with a slash do not count, and neither does the output directory. -/
theorem written_lies_below_outputDirectory (tree : FileTree) (batch : Batch) :
    ['.', '.'] ∉ (Path.ofPackage batch.package).segments ∧
    ((Path.ofPackage batch.package).isAbsolute = true ↔
      ∃ part ∈ Path.packageParts batch.package, part.isAbsolute = true) ∧
    ((∀ part ∈ Path.packageParts batch.package, part.isAbsolute = false) →
      (Path.ofPackage batch.package).components = Path.packagePieces batch.package ∧
      ∀ report after, tree.run batch.generate = (.ok report, after) → ∀ output ∈ report.written,
        ∃ catalog ∈ batch.catalogs, output = batch.outputFile catalog ∧
          ∃ base, after.locateBase batch.outputDirectory = .ok base ∧
            after.lookup? (base ++ batch.packageNames) = some .directory ∧
            after.locate output =
              .ok (base ++ batch.packageNames ++ [className catalog ++ "Catalog.kt"])) ∧
    (∀ before part later, Path.packageParts batch.package = before ++ part :: later →
      part.isAbsolute = true → (∀ p ∈ later, p.isAbsolute = false) →
        (Path.ofPackage batch.package).components = (part :: later).flatMap Path.components ∧
        batch.targetDirectory = Path.ofPackage batch.package) := by
  refine ⟨fun hup => ?_, Path.isAbsolute_ofPackage batch.package,
    fun hparts => ⟨Path.components_ofPackage hparts, ?_⟩, ?_⟩
  · have hdot := Path.dot_notMem_of_mem_segments hup
    simp at hdot
  · intro report after hrun output houtput
    obtain ⟨catalog, hcatalog, hwritten, rfl⟩ := (mem_written_iff hrun).mp houtput
    have hchanges := changes_of_run_generate_eq_ok hrun
    obtain ⟨-, -, hwritable, -, -⟩ := run_generate_eq_ok_iff.mp hrun
    obtain ⟨content, hassess⟩ : ∃ content,
        (tree.withDirectory batch.targetDirectory).assess catalog = .written content := by
      cases hassess : (tree.withDirectory batch.targetDirectory).assess catalog with
      | written content => exact ⟨content, rfl⟩
      | _ => simp [hassess, Assessment.isWritten] at hwritten
    obtain ⟨location, hlocate, -⟩ := hwritable catalog hcatalog content hassess
    have hafter := hchanges.locate hlocate
    obtain ⟨base, hbase, hdirectory, hlocation⟩ := locate_outputFile hparts hafter
    exact ⟨catalog, hcatalog, rfl, base, hbase, hdirectory, hlocation ▸ hafter⟩
  · intro before part later hsplit hpart hlater
    have habsolute := (Path.isAbsolute_ofPackage batch.package).mpr
      ⟨part, by simp [hsplit], hpart⟩
    refine ⟨?_, Path.join_of_isAbsolute batch.outputDirectory habsolute⟩
    rw [Path.ofPackage_eq, hsplit, Path.joinAll_of_isAbsolute _ before later hpart,
      Path.components_joinAll part hlater, List.flatMap_cons]

end Batch

theorem mixedBatch_lies_below_out : ∃ report after,
    mixedTree.run mixedBatch.generate = (.ok report, after) ∧
    mixedBatch.outputFile ⟨"a/libs.toml"⟩ ∈ report.written ∧
    ∀ output ∈ report.written, ∃ name, after.locate output = .ok ["out", "p", "q", name] := by
  obtain ⟨report, after, hrun⟩ := run_mixed
  obtain ⟨-, -, hbelow, -⟩ := Batch.written_lies_below_outputDirectory mixedTree mixedBatch
  obtain ⟨-, hwritten⟩ := hbelow (by decide)
  have hout : after.locate ⟨"out"⟩ = .ok ["out"] := by
    refine (Batch.changes_of_run_generate_eq_ok hrun).locate ?_
    decide
  refine ⟨report, after, hrun, ?_, fun output houtput => ?_⟩
  · refine (Batch.mem_written_iff hrun).mpr ⟨⟨"a/libs.toml"⟩, by simp [mixedBatch], ?_, rfl⟩
    rw [← mixedReady, assess_mixed.2.1]
    rfl
  · obtain ⟨catalog, -, -, base, hbase, -, hlocate⟩ := hwritten report after hrun output houtput
    have hnames : mixedBatch.packageNames = ["p", "q"] := by decide
    have hdirectory : after.locateBase mixedBatch.outputDirectory = .ok ["out"] := hout
    obtain rfl := Except.ok.inj (hdirectory.symm.trans hbase)
    exact ⟨className catalog ++ "Catalog.kt", by rw [hlocate, hnames]; rfl⟩

/-- The classes of a package in which a slash follows a dot go elsewhere. -/
theorem slashedPackage_leaves_out :
    Path.packagePieces "a./b" = [['a'], ['b']] ∧ Path.ofPackage "a./b" = ⟨"/b"⟩ ∧
    (Path.ofPackage "a./b").isAbsolute = true ∧
    (Path.ofPackage "a./b").components = [['b']] ∧
    { mixedBatch with package := "a./b" }.outputFile ⟨"a/libs.toml"⟩ = ⟨"/b/LibsCatalog.kt"⟩ := by
  decide

end VersionCatalog
