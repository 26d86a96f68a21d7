import VersionCatalog.Catalog.OfNode
import VersionCatalog.Error
import VersionCatalog.Kotlin.Source
import VersionCatalog.Storage
import VersionCatalog.Toml.Document

namespace VersionCatalog

variable {m : Type → Type} [Monad m] [Storage m]

def readCatalogText (path : Path) : m (Except Error String) := do
  if ← Storage.isFile path then
    match ← Storage.readText path with
    | .error detail => return .error (.catalog path (.unreadable "file" detail))
    | .ok text => return .ok text
  else return .error (.catalogNotFound path)

/-- The source of a class from the text of its catalog. Only a text that holds no document fails. -/
def Kotlin.sourceOfText (text : String) (options : Options) : Except String String :=
  match Toml.parse? text with
  | none => .error Toml.refusal
  | some document => .ok (source (.ofNode document) options)

/-- The catalog in the text of a file. -/
def Catalog.ofText (path : Path) (text : String) : Except Error Catalog :=
  match Toml.parse? text with
  | none => .error (.catalog path (.malformed none Toml.refusal))
  | some document => .ok (.ofNode document)

def loadCatalog (path : Path) : m (Except Error Catalog) := do
  match ← readCatalogText path with
  | .error error => return .error error
  | .ok text => return Catalog.ofText path text

/-- What to generate, from which catalogs and where to. -/
structure Batch where
  package : String
  catalogs : List Path
  outputDirectory : Path
  version : String
  year : Int

/-- Why no class was generated from a file: it is not a TOML file, or its catalog is blank. -/
inductive SkipReason where
  | notToml
  | nothingToEmit
  deriving DecidableEq, Repr

/-- What became of a batch: the files that were written, and the catalogs that were skipped or
failed. -/
structure Report where
  written : List Path := []
  skipped : List (Path × SkipReason) := []
  failed : List (Path × Error) := []
  deriving DecidableEq, Repr

def Report.hasFailures (report : Report) : Bool :=
  !report.failed.isEmpty

/-- The name of the class for a catalog file, from the file's name without its extension. -/
def className (catalog : Path) : String :=
  Naming.typeName (catalog.stem?.getD "")

/-- Whether a file is taken for a TOML file. -/
def isTomlFile (path : Path) : Bool :=
  path.extension? == some "toml"

namespace Batch

def targetDirectory (batch : Batch) : Path :=
  batch.outputDirectory.join (Path.ofPackage batch.package)

def outputFile (batch : Batch) (catalog : Path) : Path :=
  batch.targetDirectory.join ⟨className catalog ++ "Catalog.kt"⟩

def options (batch : Batch) (catalog : Path) : Kotlin.Options where
  package := batch.package
  typeName := className catalog
  version := batch.version
  year := batch.year

/-- The source of the class for a catalog file. -/
def renderCatalog (batch : Batch) (catalog : Path) : m (Except Error String) := do
  match ← readCatalogText catalog with
  | .error error => return .error error
  | .ok text =>
    match Kotlin.sourceOfText text (batch.options catalog) with
    | .error detail => return .error (.catalog catalog (.malformed none detail))
    | .ok source => return .ok source

/-- Generates the class for a catalog and adds to a report what became of it. -/
def generateOne (batch : Batch) (report : Report) (catalog : Path) : m (Except Error Report) := do
  if isTomlFile catalog then
    match ← batch.renderCatalog catalog with
    | .error error => return .ok { report with failed := report.failed ++ [(catalog, error)] }
    | .ok source =>
      if Text.isBlank source then
        return .ok { report with skipped := report.skipped ++ [(catalog, .nothingToEmit)] }
      else
        let output := batch.outputFile catalog
        match ← Storage.writeText output source with
        | .error detail => return .error (.storage detail)
        | .ok () => return .ok { report with written := report.written ++ [output] }
  else return .ok { report with skipped := report.skipped ++ [(catalog, .notToml)] }

/-- Generates the classes for catalogs one after the other. The report goes from each to the next. -/
def generateEach (batch : Batch) : Report → List Path → m (Except Error Report)
  | report, [] => return .ok report
  | report, catalog :: others => do
    match ← batch.generateOne report catalog with
    | .error error => return .error error
    | .ok report => batch.generateEach report others

/-- The first of the paths that does not lead to a file. -/
def firstMissing? : List Path → m (Option Path)
  | [] => return none
  | path :: others => do
    if ← Storage.isFile path then firstMissing? others
    else return some path

/-- Generates a batch: the directory of the files is made first, and then a missing catalog ends
the run before anything is written. -/
def generate (batch : Batch) : m (Except Error Report) := do
  match ← Storage.ensureDirectory batch.targetDirectory with
  | .error detail => return .error (.storage detail)
  | .ok () =>
    match ← firstMissing? batch.catalogs with
    | some path => return .error (.catalogNotFound path)
    | none => batch.generateEach {} batch.catalogs

end Batch

end VersionCatalog
