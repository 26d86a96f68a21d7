import VersionCatalog.Error
import VersionCatalog.Storage
import VersionCatalog.Toml.Document

namespace VersionCatalog

open Toml (Node)

/-- The settings of a project. Without a year the current one is meant. -/
structure Settings where
  package : String := "org.gradle.version.catalog"
  catalogs : List Path := [⟨"gradle/libs.versions.toml"⟩]
  outputDirectory : Path := ⟨"build/generated/sources"⟩
  version : String := "unspecified"
  year : Option Int := none
  deriving DecidableEq, Repr

namespace Settings

/-- What stands for the fields of the settings in a document. -/
structure Fields where
  package : Option Node := none
  catalogs : Option Node := none
  outputDirectory : Option Node := none
  version : Option Node := none
  year : Option Node := none

/-- The fields of a node. A table has them by name and an array by position, a date has none of
them, and other nodes stand for no settings. -/
def Fields.ofNode? : Node → Option Fields
  | .table entries => some {
      package := entries.lookup "package"
      catalogs := entries.lookup "catalogs"
      outputDirectory := entries.lookup "output-dir"
      version := entries.lookup "version"
      year := entries.lookup "copyright-year" }
  | .array items => some {
      package := items[0]?
      catalogs := items[1]?
      outputDirectory := items[2]?
      version := items[3]?
      year := items[4]? }
  | .literal raw => if Toml.isDatetime raw.toList then some {} else none
  | _ => none

/-- The value of a field: the default if it is not there, none if it has the wrong type. -/
def fieldValue? {α : Type} (default : α) (read? : Node → Option α) : Option Node → Option α
  | none => some default
  | some node => read? node

def path? (node : Node) : Option Path :=
  node.string?.map Path.mk

def paths? (node : Node) : Option (List Path) :=
  node.array?.bind (List.mapM path?)

/-- A year is written as an integer, and has to fit in 32 bits. -/
def year? : Node → Option Int
  | .literal raw =>
    (Toml.integer? raw.toList).filter fun year => -2147483648 ≤ year && year ≤ 2147483647
  | _ => none

def ofFields? (fields : Fields) : Option Settings := do
  let defaults : Settings := {}
  let package ← fieldValue? defaults.package Node.string? fields.package
  let catalogs ← fieldValue? defaults.catalogs paths? fields.catalogs
  let outputDirectory ← fieldValue? defaults.outputDirectory path? fields.outputDirectory
  let version ← fieldValue? defaults.version Node.string? fields.version
  let year ← fieldValue? defaults.year (fun node => (year? node).map some) fields.year
  some { package, catalogs, outputDirectory, version, year }

def ofDocument? (document : Node) : Option Settings :=
  match document.get? "generator" with
  | none => some {}
  | some node => (Fields.ofNode? node).bind ofFields?

/-- The settings in the text of a file. For a field of the wrong type the words are short; those of a
parser also name the field and what was expected there. -/
def ofText (text : String) : Except Error Settings :=
  match Toml.parse? text with
  | none => .error (.settings (.malformed settingsFileName Toml.refusal))
  | some document =>
    match ofDocument? document with
    | none => .error (.settings (.malformed settingsFileName "invalid type"))
    | some settings => .ok settings

/-- The settings with all paths taken from a root. -/
def rootedAt (settings : Settings) (root : Path) : Settings :=
  { settings with
    catalogs := settings.catalogs.map root.join
    outputDirectory := root.join settings.outputDirectory }

/-- The settings in a file, the defaults if it is not there. -/
def load {m : Type → Type} [Monad m] [Storage m] (path : Path) : m (Except Error Settings) := do
  if ← Storage.isFile path then
    match ← Storage.readText path with
    | .error detail => return .error (.settings (.unreadable path.text detail))
    | .ok text => return ofText text
  else return .ok {}

end Settings

end VersionCatalog
