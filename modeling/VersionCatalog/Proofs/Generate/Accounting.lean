import VersionCatalog.Proofs.CommandLine.Generate
import VersionCatalog.Proofs.Generate.Run

namespace VersionCatalog

namespace Assessment

def isWritten : Assessment → Bool
  | .written _ => true
  | _ => false

def skipReason? : Assessment → Option SkipReason
  | .notToml => some .notToml
  | .nothingToEmit => some .nothingToEmit
  | _ => none

def error? : Assessment → Option Error
  | .failed error => some error
  | _ => none

end Assessment

section Selections

variable (batch : Batch) (assess : Path → Assessment) (catalogs : List Path)

theorem ofOutcomes_assessed :
    Report.ofOutcomes (catalogs.map fun c => (c, batch.outcome c (assess c))) = {
      written := (catalogs.filter fun c => (assess c).isWritten).map batch.outputFile
      skipped := catalogs.filterMap fun c => (assess c).skipReason?.map (c, ·)
      failed := catalogs.filterMap fun c => (assess c).error?.map (c, ·) } := by
  induction catalogs with
  | nil => rfl
  | cons catalog catalogs ih =>
    simp only [Report.ofOutcomes, Report.mk.injEq] at ih ⊢
    obtain ⟨hwritten, hskipped, hfailed⟩ := ih
    simp only [List.map_cons, List.filterMap_cons, hwritten, hskipped, hfailed]
    cases hassess : assess catalog <;>
      simp [Batch.outcome, Assessment.isWritten, Assessment.skipReason?, Assessment.error?, hassess]

/-- Every catalog is in one of the lists. -/
theorem length_selections :
    ((catalogs.filter fun c => (assess c).isWritten).map batch.outputFile).length +
      (catalogs.filterMap fun c => (assess c).skipReason?.map (c, ·)).length +
      (catalogs.filterMap fun c => (assess c).error?.map (c, ·)).length = catalogs.length := by
  induction catalogs with
  | nil => rfl
  | cons catalog catalogs ih =>
    cases hassess : assess catalog <;>
      simp [Assessment.isWritten, Assessment.skipReason?, Assessment.error?, hassess] at ih ⊢ <;>
      omega

end Selections

theorem Batch.mem_written_iff {batch : Batch} {tree after : FileTree} {report : Report}
    (h : tree.run batch.generate = (.ok report, after)) {output : Path} :
    output ∈ report.written ↔ ∃ catalog ∈ batch.catalogs,
      ((tree.withDirectory batch.targetDirectory).assess catalog).isWritten = true ∧
        batch.outputFile catalog = output := by
  obtain ⟨-, -, -, hreport, -⟩ := run_generate_eq_ok_iff.mp h
  rw [hreport, ofOutcomes_assessed]
  simp [and_assoc]

/-- The lists of a report are selections from the batch in its order, by what each catalog comes to
when the directory of the classes is there and no file is written yet, and every catalog is in one
of them. A call of `generate` ends with code zero if its batch gives a report without failures. -/
theorem report_accounts_for_catalogs (tree : FileTree) (batch : Batch) :
    (∀ report after, tree.run batch.generate = (.ok report, after) →
      report.written = (batch.catalogs.filter fun c =>
        ((tree.withDirectory batch.targetDirectory).assess c).isWritten).map (fun c =>
          batch.targetDirectory.join ⟨className c ++ "Catalog.kt"⟩) ∧
      report.skipped = batch.catalogs.filterMap (fun c =>
        ((tree.withDirectory batch.targetDirectory).assess c).skipReason?.map (c, ·)) ∧
      report.failed = batch.catalogs.filterMap (fun c =>
        ((tree.withDirectory batch.targetDirectory).assess c).error?.map (c, ·)) ∧
      report.written.length + report.skipped.length + report.failed.length =
        batch.catalogs.length) ∧
    ∀ here thisYear catalogs package outputDirectory projectVersion,
      (tree.run (CommandLine.runGenerate here thisYear catalogs package outputDirectory
          projectVersion)).1.code = 0 ↔
        ∃ called report after,
          CommandLine.calledBatch tree here thisYear catalogs package outputDirectory
            projectVersion = .ok called ∧
          tree.run called.generate = (.ok report, after) ∧ report.failed = [] := by
  refine ⟨fun report after hrun => ?_, CommandLine.code_eq_zero_iff tree⟩
  obtain ⟨-, -, -, hreport, -⟩ := Batch.run_generate_eq_ok_iff.mp hrun
  rw [ofOutcomes_assessed] at hreport
  subst hreport
  exact ⟨rfl, rfl, rfl, length_selections batch _ batch.catalogs⟩

theorem mixedBatch_is_accounted_for : ∃ report after,
    mixedTree.run mixedBatch.generate = (.ok report, after) ∧
    report.written = [⟨"out/p/q/LibsCatalog.kt"⟩, ⟨"out/p/q/LibsCatalog.kt"⟩] ∧
    report.skipped = [(⟨"libs.json"⟩, .notToml), (⟨"blank.toml"⟩, .nothingToEmit)] ∧
    report.failed =
      [(⟨"broken.toml"⟩, .catalog ⟨"broken.toml"⟩ (.malformed none Toml.refusal))] := by
  obtain ⟨report, after, hrun⟩ := run_mixed
  obtain ⟨hwritten, hskipped, hfailed, -⟩ :=
    (report_accounts_for_catalogs mixedTree mixedBatch).1 report after hrun
  have hready : mixedTree.withDirectory mixedBatch.targetDirectory = mixedReady := rfl
  have hcatalogs : mixedBatch.catalogs =
    [⟨"libs.json"⟩, ⟨"a/libs.toml"⟩, ⟨"broken.toml"⟩, ⟨"b/libs.toml"⟩, ⟨"blank.toml"⟩] := rfl
  have hnames : mixedBatch.targetDirectory.join ⟨className ⟨"a/libs.toml"⟩ ++ "Catalog.kt"⟩ =
      ⟨"out/p/q/LibsCatalog.kt"⟩ ∧
      mixedBatch.targetDirectory.join ⟨className ⟨"b/libs.toml"⟩ ++ "Catalog.kt"⟩ =
        ⟨"out/p/q/LibsCatalog.kt"⟩ := by decide
  obtain ⟨hjson, hfirst, hbroken, hsecond, hblank⟩ := assess_mixed
  simp only [hready, hcatalogs, List.filter_cons, List.filterMap_cons, hjson, hfirst, hbroken,
    hsecond, hblank] at hwritten hskipped hfailed
  refine ⟨report, after, hrun, ?_, hskipped, hfailed⟩
  rw [hwritten]
  simpa [Assessment.isWritten] using hnames

end VersionCatalog
