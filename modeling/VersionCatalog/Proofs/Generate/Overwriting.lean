import VersionCatalog.Proofs.Generate.Accounting
import VersionCatalog.Proofs.Kotlin.Content

namespace VersionCatalog

private theorem exists_last {α : Type} {l : List α} {p : α → Prop} (h : ∃ x ∈ l, p x) :
    ∃ before x later, l = before ++ x :: later ∧ p x ∧ ∀ y ∈ later, ¬ p y := by
  induction l with
  | nil => simp at h
  | cons a l ih =>
    by_cases hlater : ∃ x ∈ l, p x
    · obtain ⟨before, x, later, rfl, hx, hrest⟩ := ih hlater
      exact ⟨a :: before, x, later, rfl, hx, hrest⟩
    · obtain ⟨x, hmem, hx⟩ := h
      rcases List.mem_cons.mp hmem with rfl | hmem
      · exact ⟨[], x, l, rfl, hx, fun y hy hp => hlater ⟨y, hy, hp⟩⟩
      · exact absurd ⟨x, hmem, hx⟩ hlater

namespace Batch

variable {batch : Batch} {tree after : FileTree} {report : Report}

private theorem outputFile_of_className {catalog other : Path}
    (h : className catalog = className other) :
    batch.outputFile catalog = batch.outputFile other := by
  rw [outputFile, outputFile, h]

private theorem mem_writings {ready : FileTree} {catalogs : List Path} {location : Location}
    (h : location ∈ (catalogs.filterMap (batch.writing? ready)).map Prod.fst) :
    ∃ catalog ∈ catalogs, ∃ content, ready.assess catalog = .written content ∧
      ready.locate (batch.outputFile catalog) = .ok location := by
  obtain ⟨file, hfile, rfl⟩ := List.mem_map.mp h
  obtain ⟨catalog, hcatalog, hwriting⟩ := List.mem_filterMap.mp hfile
  obtain ⟨content, hassess, hlocate, -⟩ := writing?_eq_some_iff.mp hwriting
  exact ⟨catalog, hcatalog, content, hassess, hlocate⟩

/-- The last class of its name is in its file. -/
theorem readText_of_last (h : tree.run batch.generate = (.ok report, after))
    {before later : List Path} {catalog : Path} {content : Catalog}
    (hsplit : batch.catalogs = before ++ catalog :: later)
    (hassess : (tree.withDirectory batch.targetDirectory).assess catalog = .written content)
    (hlater : ∀ c ∈ later, ∀ other,
      (tree.withDirectory batch.targetDirectory).assess c = .written other →
        className c ≠ className catalog) :
    after.readText (batch.outputFile catalog) = .ok (batch.classSource catalog content) := by
  have hchanges := changes_of_run_generate_eq_ok h
  obtain ⟨-, -, hwritable, -, hafter⟩ := run_generate_eq_ok_iff.mp h
  generalize tree.withDirectory batch.targetDirectory = ready at *
  obtain ⟨location, hlocate, hentry⟩ := hwritable catalog (by simp [hsplit]) content hassess
  have hwriting : batch.writing? ready catalog =
      some (location, (batch.classSource catalog content).toUTF8) := by
    rw [writing?, hassess, hlocate]
  have hnone : location ∉ (later.filterMap (batch.writing? ready)).map Prod.fst := by
    intro hmem
    obtain ⟨c, hc, other, hother, hsame⟩ := mem_writings hmem
    exact hlater c hc other hother (className_eq_of_locate hsame hlocate)
  have hfile : after.lookup? location =
      some (.file (batch.classSource catalog content).toUTF8) := by
    rw [hafter, hsplit, List.filterMap_append, List.filterMap_cons_some hwriting]
    exact FileTree.lookup?_putFiles_of_last (FileTree.lookup?_ne_nil hentry) _ hnone
  refine FileTree.readText_of_read ?_
  exact FileTree.read_eq_ok_iff.mpr ⟨location, hchanges.locate hlocate, hfile⟩

/-- After a run that succeeds, the file of a catalog that was written holds its class if no catalog
behind it with a class of the same name was written. So every file holds the class of each of its
catalogs just if the catalogs with classes of one name have the same class. -/
theorem written_classes_are_kept_iff (tree : FileTree) (batch : Batch) (report : Report)
    (after : FileTree) (h : tree.run batch.generate = (.ok report, after)) :
    report.written = (batch.catalogs.filter fun c =>
      ((tree.withDirectory batch.targetDirectory).assess c).isWritten).map batch.outputFile ∧
    (∀ location content,
      (tree.withDirectory batch.targetDirectory).lookup? location = some (.file content) ↔
        tree.lookup? location = some (.file content)) ∧
    (∀ before catalog later content, batch.catalogs = before ++ catalog :: later →
      (tree.withDirectory batch.targetDirectory).assess catalog = .written content →
      (∀ c ∈ later, ∀ other,
        (tree.withDirectory batch.targetDirectory).assess c = .written other →
          className c ≠ className catalog) →
      after.readText (batch.outputFile catalog) =
        .ok (Kotlin.source content (batch.options catalog))) ∧
    ((∀ catalog ∈ batch.catalogs, ∀ content,
        (tree.withDirectory batch.targetDirectory).assess catalog = .written content →
          after.readText (batch.outputFile catalog) =
            .ok (Kotlin.source content (batch.options catalog))) ↔
      ∀ catalog ∈ batch.catalogs, ∀ other ∈ batch.catalogs, ∀ content content',
        (tree.withDirectory batch.targetDirectory).assess catalog = .written content →
        (tree.withDirectory batch.targetDirectory).assess other = .written content' →
        className catalog = className other →
          Kotlin.source content (batch.options catalog) =
            Kotlin.source content' (batch.options other)) := by
  have hready := FileTree.changes_withDirectory tree batch.targetDirectory
  obtain ⟨-, -, -, hreport, -⟩ := run_generate_eq_ok_iff.mp h
  rw [ofOutcomes_assessed] at hreport
  refine ⟨by rw [hreport], fun location content => hready.file_iff id content,
    fun _ _ _ _ => readText_of_last h, fun hkept => ?_, fun hsame => ?_⟩
  · intro catalog hcatalog other hother content content' hassess hassess' hname
    have hfirst := hkept catalog hcatalog content hassess
    rw [outputFile_of_className hname, hkept other hother content' hassess'] at hfirst
    exact (Except.ok.inj hfirst).symm
  · intro catalog hcatalog content hassess
    -- the last class of that name is the one in the file
    obtain ⟨before, other, later, hsplit, ⟨⟨content', hassess'⟩, hname⟩, hlater⟩ :=
      exists_last (p := fun c => (∃ content',
        (tree.withDirectory batch.targetDirectory).assess c = .written content') ∧
          className c = className catalog) ⟨catalog, hcatalog, ⟨content, hassess⟩, rfl⟩
    have hkept := readText_of_last h hsplit hassess' fun c hc third hthird hne =>
      hlater c hc ⟨⟨third, hthird⟩, hne.trans hname⟩
    have hother : other ∈ batch.catalogs := by simp [hsplit]
    rw [← outputFile_of_className hname, hkept,
      hsame catalog hcatalog other hother content content' hassess hassess' hname.symm]
    rfl

end Batch

/-- In the mixed batch no class of the name comes behind that of `b/libs.toml`. -/
theorem mixedBatch_last_libs : ∀ c ∈ [(⟨"blank.toml"⟩ : Path)], ∀ other,
    (mixedTree.withDirectory mixedBatch.targetDirectory).assess c = .written other →
      className c ≠ className ⟨"b/libs.toml"⟩ := by
  intro c hc other hwritten
  obtain rfl := List.mem_singleton.mp hc
  have hblank := assess_mixed.2.2.2.2
  rw [mixedReady] at hblank
  rw [hblank] at hwritten
  cases hwritten

theorem mixedBatch_keeps_last : ∃ report after,
    mixedTree.run mixedBatch.generate = (.ok report, after) ∧
    after.readText ⟨"out/p/q/LibsCatalog.kt"⟩ =
      .ok (Kotlin.source (libsCatalog "2") (mixedBatch.options ⟨"b/libs.toml"⟩)) := by
  obtain ⟨report, after, hrun⟩ := run_mixed
  obtain ⟨-, -, -, hsecond, -⟩ := assess_mixed
  obtain ⟨-, -, hkept, -⟩ :=
    Batch.written_classes_are_kept_iff mixedTree mixedBatch report after hrun
  have houtput : mixedBatch.outputFile ⟨"b/libs.toml"⟩ = ⟨"out/p/q/LibsCatalog.kt"⟩ := by
    decide
  have hlast := hkept [⟨"libs.json"⟩, ⟨"a/libs.toml"⟩, ⟨"broken.toml"⟩] ⟨"b/libs.toml"⟩
    [⟨"blank.toml"⟩] (libsCatalog "2") rfl hsecond mixedBatch_last_libs
  rw [houtput] at hlast
  exact ⟨report, after, hrun, hlast⟩

private theorem source_libsCatalog_ne (options : Kotlin.Options) :
    Kotlin.source (libsCatalog "2") options ≠ Kotlin.source (libsCatalog "1") options := by
  intro h
  have hshown : Kotlin.shownKinds (libsCatalog "1") ≠ [] ∧
      Kotlin.shownKinds (libsCatalog "2") ≠ [] := by decide
  have hclass : Kotlin.classText (libsCatalog "2") options =
      Kotlin.classText (libsCatalog "1") options := by
    apply Kotlin.preamble_cancel options
    simpa [Kotlin.source, Kotlin.objects_eq_map, hshown] using h
  have hversions := Kotlin.sameSection_of_classText_eq hshown.2 hshown.1 hclass .versions
  revert hversions
  unfold Kotlin.SameSection
  decide

/-- The class of `a/libs.toml` is reported as written and is not there after the run. -/
theorem mixedBatch_loses_first : ∃ report after,
    mixedTree.run mixedBatch.generate = (.ok report, after) ∧
    mixedReady.assess ⟨"a/libs.toml"⟩ = .written (libsCatalog "1") ∧
    mixedBatch.outputFile ⟨"a/libs.toml"⟩ ∈ report.written ∧
    after.readText (mixedBatch.outputFile ⟨"a/libs.toml"⟩) ≠
      .ok (Kotlin.source (libsCatalog "1") (mixedBatch.options ⟨"a/libs.toml"⟩)) := by
  obtain ⟨report, after, hrun⟩ := run_mixed
  obtain ⟨-, hfirst, -, hsecond, -⟩ := assess_mixed
  have hname : className ⟨"a/libs.toml"⟩ = className ⟨"b/libs.toml"⟩ := by decide +kernel
  have hoptions : mixedBatch.options ⟨"a/libs.toml"⟩ = mixedBatch.options ⟨"b/libs.toml"⟩ := by
    rw [Batch.options, Batch.options, hname]
  have hlast := Batch.readText_of_last hrun
    (show mixedBatch.catalogs = [⟨"libs.json"⟩, ⟨"a/libs.toml"⟩, ⟨"broken.toml"⟩] ++
      ⟨"b/libs.toml"⟩ :: [⟨"blank.toml"⟩] from rfl) hsecond mixedBatch_last_libs
  refine ⟨report, after, hrun, hfirst, ?_, ?_⟩
  · refine (Batch.mem_written_iff hrun).mpr ⟨⟨"a/libs.toml"⟩, by simp [mixedBatch], ?_, rfl⟩
    rw [← mixedReady, hfirst]
    rfl
  · rw [Batch.outputFile_of_className hname, hlast, hoptions]
    intro hsame
    exact source_libsCatalog_ne _ (Except.ok.inj hsame)

end VersionCatalog
