import VersionCatalog.Generate

namespace VersionCatalog

/-- What became of one catalog. -/
inductive Outcome where
  | written (output : Path)
  | skipped (reason : SkipReason)
  | failed (error : Error)
  deriving DecidableEq, Repr

namespace Report

/-- The report on catalogs with their outcomes; each list keeps their order. -/
def ofOutcomes (outcomes : List (Path × Outcome)) : Report where
  written := outcomes.filterMap fun
    | (_, .written output) => some output
    | _ => none
  skipped := outcomes.filterMap fun
    | (catalog, .skipped reason) => some (catalog, reason)
    | _ => none
  failed := outcomes.filterMap fun
    | (catalog, .failed error) => some (catalog, error)
    | _ => none

/-- A report with what became of one more catalog. -/
def add (report : Report) (catalog : Path) : Outcome → Report
  | .written output => { report with written := report.written ++ [output] }
  | .skipped reason => { report with skipped := report.skipped ++ [(catalog, reason)] }
  | .failed error => { report with failed := report.failed ++ [(catalog, error)] }

/-- The lists of a report that grows catalog by catalog are selections from all outcomes so far. -/
theorem add_ofOutcomes (outcomes : List (Path × Outcome)) (catalog : Path) (outcome : Outcome) :
    (ofOutcomes outcomes).add catalog outcome = ofOutcomes (outcomes ++ [(catalog, outcome)]) := by
  cases outcome <;> simp [ofOutcomes, add]

theorem perm_ofOutcomes {outcomes others : List (Path × Outcome)} (h : others.Perm outcomes) :
    (ofOutcomes others).written.Perm (ofOutcomes outcomes).written ∧
      (ofOutcomes others).skipped.Perm (ofOutcomes outcomes).skipped ∧
      (ofOutcomes others).failed.Perm (ofOutcomes outcomes).failed :=
  ⟨h.filterMap _, h.filterMap _, h.filterMap _⟩

end Report

end VersionCatalog
