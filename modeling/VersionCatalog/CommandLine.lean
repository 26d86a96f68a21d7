import VersionCatalog.CommandLine.Arguments
import VersionCatalog.Generate
import VersionCatalog.Listing
import VersionCatalog.Settings

namespace VersionCatalog.CommandLine

variable {m : Type → Type} [Monad m] [Storage m]

def banner : String := "povercat 0.2.0"

def usage : List String := [
  "Portable version catalog generator",
  "",
  "Usage: povercat [OPTIONS] <COMMAND>",
  "",
  "Commands:",
  "  generate [-p <PACKAGE>] [-o <OUTPUT_DIR>] [--project-version <VERSION>] [CATALOGS]...",
  "            Generate Kotlin catalog classes",
  "  inspect <CATALOG>",
  "            Show the entries a catalog would generate",
  "  help      Print this message",
  "",
  "Options:",
  "  -v, --verbose  Enable verbose output",
  "  -h, --help     Print help",
  "  -V, --version  Print version"]

/-- The end of a run: its exit code, the lines it prints, the catalogs that failed, and the error
that ended it. -/
structure Result where
  code : Nat
  output : List String := []
  failures : List (Path × Error) := []
  error : Option Error := none

def failureLine (failure : Path × Error) : String :=
  "Failed " ++ failure.1.text ++ ": " ++ failure.2.message

def skipText : SkipReason → String
  | .notToml => "not a .toml file"
  | .nothingToEmit => "nothing to generate"

def reportLines (package : String) (report : Report) : List String :=
  report.written.map (fun path => "Generated " ++ path.text) ++
  report.skipped.map (fun entry => "Skipped " ++ entry.1.text ++ " (" ++ skipText entry.2 ++ ")") ++
  [Text.decimal report.written.length ++ " catalog class(es) generated in package " ++ package]

def Result.ofError (error : Error) : Result where
  code := 1
  error := error

def Result.ofReport (package : String) (report : Report) : Result where
  code := if report.hasFailures then 1 else 0
  output := reportLines package report
  failures := report.failed
  error :=
    if report.hasFailures then
      some (.other (Text.decimal report.failed.length ++ " catalog(s) could not be generated"))
    else none

/-- The batch of a call of `generate`: what the arguments say goes before the settings, and the
paths in the arguments start from the current directory. -/
def batchOf (here : Path) (thisYear : Int) (settings : Settings) (catalogs : List Path)
    (package : Option String) (outputDirectory : Option Path) (projectVersion : Option String) :
    Batch where
  package := package.getD settings.package
  catalogs := if catalogs.isEmpty then settings.catalogs else catalogs.map here.join
  outputDirectory := (outputDirectory.map here.join).getD settings.outputDirectory
  version := projectVersion.getD settings.version
  year := settings.year.getD thisYear

/-- Runs `generate` in a directory. The project is the nearest directory above with a file of
settings, or else the directory itself. -/
def runGenerate (here : Path) (thisYear : Int) (catalogs : List Path) (package : Option String)
    (outputDirectory : Option Path) (projectVersion : Option String) : m Result := do
  let root := (← Storage.findAbove? here settingsFileName).getD here
  match ← Settings.load (root.join ⟨settingsFileName⟩) with
  | .error error => return .ofError error
  | .ok settings =>
    let batch := batchOf here thisYear (settings.rootedAt root) catalogs package outputDirectory
      projectVersion
    match ← batch.generate with
    | .error error => return .ofError error
    | .ok report => return .ofReport batch.package report

/-- Runs `inspect` on a catalog file. -/
def runInspect (catalog : Path) : m Result := do
  match ← loadCatalog catalog with
  | .error error => return .ofError error
  | .ok content => return { code := 0, output := Listing.lines content }

/-- Runs the program in a directory with its arguments. -/
def run (here : Path) (thisYear : Int) (arguments : List String) : m Result :=
  match Request.ofArguments arguments with
  | .generate catalogs package outputDirectory projectVersion =>
    runGenerate here thisYear catalogs package outputDirectory projectVersion
  | .inspect catalog => runInspect catalog
  | .version => return { code := 0, output := [banner] }
  | .help => return { code := 0, output := usage }
  | .misuse => return { code := 2 }

end VersionCatalog.CommandLine
