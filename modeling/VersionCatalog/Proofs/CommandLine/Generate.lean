import VersionCatalog.CommandLine
import VersionCatalog.Proofs.FileTree.Actions

namespace VersionCatalog

namespace FileTree

variable {tree : FileTree}

theorem run_findHolding? (name : String) (directories : List Path) :
    tree.run (Storage.findHolding? name directories) =
      (directories.find? fun directory => tree.isFile (directory.join ⟨name⟩), tree) := by
  induction directories with
  | nil => rfl
  | cons directory others ih =>
    rw [Storage.findHolding?, run_bind, run_isFile, List.find?_cons]
    cases tree.isFile (directory.join ⟨name⟩) with
    | true => rfl
    | false => exact ih

/-- The settings at a path. -/
def settings (tree : FileTree) (path : Path) : Except Error Settings :=
  (tree.run (Settings.load path)).1

private theorem run_loadSettings (path : Path) :
    tree.run (Settings.load path) = (tree.settings path, tree) := by
  refine Prod.ext rfl ?_
  rw [Settings.load, run_bind, run_isFile]
  cases tree.isFile path with
  | false => rfl
  | true =>
    rw [if_pos rfl, run_bind, run_readText]
    cases tree.readText path <;> rfl

theorem settings_of_isFile {path : Path} (h : tree.isFile path = false) :
    tree.settings path = .ok {} := by
  rw [settings, Settings.load, run_bind, run_isFile, h]
  rfl

/-- The settings in a file are those of its text. -/
theorem settings_of_text {path : Path} {text : String} (h : tree.read path = .ok text.toUTF8) :
    tree.settings path = Settings.ofText text := by
  have hfile : tree.isFile path = true := isFile_iff.mpr ⟨_, h⟩
  rw [settings, Settings.load, run_bind, run_isFile, hfile, if_pos rfl, run_bind, run_readText,
    readText_of_read h]
  rfl

end FileTree

namespace CommandLine

/-- The directory of the project: the nearest one above with a file of settings, or else the current
one. -/
def projectRoot (tree : FileTree) (here : Path) : Path :=
  ((here :: here.parents).find? fun directory =>
    tree.isFile (directory.join ⟨settingsFileName⟩)).getD here

variable (tree : FileTree) (here : Path) (thisYear : Int) (catalogs : List Path)
  (package : Option String) (outputDirectory : Option Path) (projectVersion : Option String)

/-- The batch of a call of `generate`, or what is wrong with the settings. -/
def calledBatch : Except Error Batch :=
  (tree.settings ((projectRoot tree here).join ⟨settingsFileName⟩)).map fun settings =>
    batchOf here thisYear (settings.rootedAt (projectRoot tree here)) catalogs package
      outputDirectory projectVersion

/-- How a call ends whose batch ended with a report or an error. -/
def resultOf (batch : Batch) : Except Error Report → Result
  | .error error => .ofError error
  | .ok report => .ofReport batch.package report

theorem run_runGenerate :
    tree.run (runGenerate here thisYear catalogs package outputDirectory projectVersion) =
      match calledBatch tree here thisYear catalogs package outputDirectory projectVersion with
      | .error error => (.ofError error, tree)
      | .ok batch => (resultOf batch (tree.run batch.generate).1, (tree.run batch.generate).2) := by
  rw [runGenerate, FileTree.run_bind, Storage.findAbove?, FileTree.run_findHolding?,
    FileTree.run_bind, FileTree.run_loadSettings, calledBatch, projectRoot]
  dsimp only
  cases tree.settings _ with
  | error error => rfl
  | ok settings =>
    dsimp only [Except.map]
    rw [FileTree.run_bind]
    generalize tree.run (Batch.generate _) = result
    rcases result with ⟨outcome, after⟩
    cases outcome <;> rfl

private theorem code_resultOf_eq_zero_iff (batch : Batch) (result : Except Error Report) :
    (resultOf batch result).code = 0 ↔ ∃ report, result = .ok report ∧ report.failed = [] := by
  cases result with
  | error error => simp [resultOf, Result.ofError]
  | ok report => simp [resultOf, Result.ofReport, Report.hasFailures]

/-- The exit code is zero if a batch was run to its end and none of its catalogs failed. -/
theorem code_eq_zero_iff :
    (tree.run (runGenerate here thisYear catalogs package outputDirectory projectVersion)).1.code =
        0 ↔
      ∃ batch report after,
        calledBatch tree here thisYear catalogs package outputDirectory projectVersion = .ok batch ∧
        tree.run batch.generate = (.ok report, after) ∧ report.failed = [] := by
  rw [run_runGenerate]
  cases hcalled : calledBatch tree here thisYear catalogs package outputDirectory projectVersion with
  | error error => simp [Result.ofError]
  | ok batch =>
    rcases hrun : tree.run batch.generate with ⟨result, after⟩
    simp only [code_resultOf_eq_zero_iff, Except.ok.injEq, exists_and_left, exists_eq_left',
      hrun, Prod.mk.injEq]
    constructor
    · rintro ⟨report, hresult, hfailed⟩
      exact ⟨report, after, ⟨hresult, rfl⟩, hfailed⟩
    · rintro ⟨report, -, ⟨hresult, -⟩, hfailed⟩
      exact ⟨report, hresult, hfailed⟩

end CommandLine

end VersionCatalog
