import VersionCatalog.Proofs.Generate.Accounting

namespace VersionCatalog

namespace Batch

variable {batch : Batch} {tree : FileTree} {catalogs : List Path}

/-- Classes that go to one file are the class of one catalog. -/
theorem writings_agree
    (hnames : ∀ c ∈ catalogs, ∀ other ∈ catalogs, isTomlFile c = true → isTomlFile other = true →
      className c = className other → c = other) :
    ∀ file ∈ catalogs.filterMap (batch.writing? tree),
      ∀ other ∈ catalogs.filterMap (batch.writing? tree),
        other.1 = file.1 → other.2 = file.2 := by
  intro file hfile other hother hplace
  obtain ⟨c, hc, hwriting⟩ := List.mem_filterMap.mp hfile
  obtain ⟨d, hd, hwriting'⟩ := List.mem_filterMap.mp hother
  obtain ⟨content, hassess, hlocate, -⟩ := writing?_eq_some_iff.mp hwriting
  obtain ⟨content', hassess', hlocate', -⟩ := writing?_eq_some_iff.mp hwriting'
  have hname : className c = className d :=
    className_eq_of_locate hlocate (hplace ▸ hlocate')
  have hcatalog : c = d :=
    hnames c hc d hd (isTomlFile_of_assess hassess) (isTomlFile_of_assess hassess') hname
  rw [hcatalog, hwriting'] at hwriting
  rw [Option.some.inj hwriting]

private theorem writings_ne_root :
    ∀ file ∈ catalogs.filterMap (batch.writing? tree), file.1 ≠ [] := by
  intro file hfile hroot
  obtain ⟨c, -, hwriting⟩ := List.mem_filterMap.mp hfile
  obtain ⟨-, -, hlocate, -⟩ := writing?_eq_some_iff.mp hwriting
  have hlast := getLast?_of_locate_outputFile hlocate
  simp [hroot] at hlast

/-- If catalogs of different paths have classes of different names, a run that succeeds succeeds
with the catalogs in any order. The tree is the same afterwards, each catalog has come to the same,
and each report has its lists in the order of its own batch. -/
theorem run_generate_of_perm (tree : FileTree) (batch : Batch) (catalogs : List Path)
    (hperm : catalogs.Perm batch.catalogs)
    (hnames : ∀ c ∈ batch.catalogs, ∀ other ∈ batch.catalogs,
      isTomlFile c = true → isTomlFile other = true → className c = className other → c = other)
    (report : Report) (after : FileTree) (hrun : tree.run batch.generate = (.ok report, after)) :
    ∃ report' after', tree.run { batch with catalogs }.generate = (.ok report', after') ∧
      after'.current = after.current ∧
      (∀ location, after'.lookup? location = after.lookup? location) ∧
      report'.written.Perm report.written ∧ report'.skipped.Perm report.skipped ∧
      report'.failed.Perm report.failed ∧
      ∃ outcome : Path → Outcome,
        report = .ofOutcomes (batch.catalogs.map fun c => (c, outcome c)) ∧
        report' = .ofOutcomes (catalogs.map fun c => (c, outcome c)) := by
  obtain ⟨hensured, hfiles, hwritable, hreport, hafter⟩ := run_generate_eq_ok_iff.mp hrun
  have hmem : ∀ c ∈ catalogs, c ∈ batch.catalogs := fun c => hperm.mem_iff.mp
  have hrun' : tree.run { batch with catalogs }.generate =
      (.ok (.ofOutcomes (catalogs.map fun c =>
          (c, batch.outcome c ((tree.withDirectory batch.targetDirectory).assess c)))),
        (tree.withDirectory batch.targetDirectory).putFiles
          (catalogs.filterMap (batch.writing? (tree.withDirectory batch.targetDirectory)))) :=
    run_generate_eq_ok_iff.mpr ⟨hensured, fun c hc => hfiles c (hmem c hc),
      fun c hc => hwritable c (hmem c hc), rfl, rfl⟩
  obtain ⟨hwritten, hskipped, hfailed⟩ := Report.perm_ofOutcomes (hperm.map fun c =>
    (c, batch.outcome c ((tree.withDirectory batch.targetDirectory).assess c)))
  subst hreport hafter
  refine ⟨_, _, hrun', ?_, ?_, hwritten, hskipped, hfailed, _, rfl, rfl⟩
  · rw [FileTree.putFiles_eq, FileTree.putFiles_eq]
  · exact FileTree.lookup?_putFiles_of_perm (hperm.filterMap _) writings_ne_root
      (writings_agree hnames)

end Batch

/-- Two catalogs with classes of different names. -/
def pairTree : FileTree where
  entries := [
    (["core.toml"], .file "[versions]\nx = '1'\n".toUTF8),
    (["tools.toml"], .file "[versions]\nx = '2'\n".toUTF8)]

def pairBatch : Batch :=
  { mixedBatch with catalogs := [⟨"core.toml"⟩, ⟨"tools.toml"⟩] }

theorem pairBatch_reversed : ∃ report after report' after',
    pairTree.run pairBatch.generate = (.ok report, after) ∧
    pairTree.run { pairBatch with catalogs := [⟨"tools.toml"⟩, ⟨"core.toml"⟩] }.generate =
      (.ok report', after') ∧
    (∀ location, after'.lookup? location = after.lookup? location) ∧
    report'.written.Perm report.written := by
  obtain ⟨report, after, hrun⟩ : ∃ report after,
      pairTree.run pairBatch.generate = (.ok report, after) :=
    Batch.exists_run_of_free (by decide) (by decide) (by decide)
  have hnames : ∀ c ∈ pairBatch.catalogs, ∀ other ∈ pairBatch.catalogs, isTomlFile c = true →
      isTomlFile other = true → className c = className other → c = other := by
    decide
  obtain ⟨report', after', hrun', -, htree, hwritten, -⟩ :=
    Batch.run_generate_of_perm pairTree pairBatch [⟨"tools.toml"⟩, ⟨"core.toml"⟩]
      (List.Perm.swap _ _ _) hnames report after hrun
  exact ⟨report, after, report', after', hrun, hrun', htree, hwritten⟩

end VersionCatalog
