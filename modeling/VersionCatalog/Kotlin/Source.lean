import VersionCatalog.Kotlin.Comment
import VersionCatalog.Kotlin.Identifier
import VersionCatalog.Kotlin.Imports
import VersionCatalog.Kotlin.Quoted

namespace VersionCatalog.Kotlin

/-- The line one level deeper; an empty line stays empty. -/
def indentLine (line : String) : String :=
  if line = "" then line else "    " ++ line

def indent (lines : List String) : List String :=
  lines.map indentLine

/-- A value declared in an object: its identifier, its type, and the call that makes it, with the
lines of the arguments. -/
structure Declaration where
  name : String
  type : String
  call : String
  arguments : List String

/-- The lines of a declaration. Without arguments the call closes on the first line. -/
def Declaration.lines (d : Declaration) : List String :=
  let start := "val " ++ d.name ++ ": " ++ d.type ++ " = " ++ d.call ++ "("
  if d.arguments.isEmpty then [start ++ ")"] else start :: indent d.arguments ++ [")"]

/-- The arguments of a version's constructor: preferred, required, strict, rejected and branch. -/
def versionArguments (v : Version) : List String := [
  quote v.preferred ++ ",",
  quote v.required ++ ",",
  quote v.strict ++ ",",
  listOf v.rejected ++ ",",
  "null"]

/-- The version that a library or plugin is made with. -/
def dependencyVersion (v : Version) : List String :=
  "DefaultMutableVersionConstraint(" ::
    indent ("DefaultImmutableVersionConstraint(" :: indent (versionArguments v) ++ [")"]) ++ [")"]

def versionDeclaration (key : String) (v : Version) : Declaration where
  name := memberName key
  type := "VersionConstraint"
  call := "DefaultImmutableVersionConstraint"
  arguments := versionArguments v

def libraryDeclaration (key : String) (l : Library) : Declaration where
  name := memberName key
  type := "MinimalExternalModuleDependency"
  call := "DefaultMinimalDependency"
  arguments :=
    ("DefaultModuleIdentifier.newId(" ++ quote l.group ++ ", " ++ quote l.name ++ "),") ::
      dependencyVersion l.version

def pluginDeclaration (key : String) (p : Plugin) : Declaration where
  name := memberName key
  type := "PluginDependency"
  call := "DefaultPluginDependency"
  arguments := (quote p.id ++ ",") :: dependencyVersion p.version

/-- The declaration for a bundle, which is filled later. -/
def bundleDeclaration (key : String) (_ : Bundle) : Declaration where
  name := memberName key
  type := "ExternalModuleDependencyBundle"
  call := "DefaultExternalModuleDependencyBundle"
  arguments := []

/-- The statements that put the libraries of a bundle into it. -/
def bundleStatements (entry : String × Bundle) : List String :=
  entry.2.libraries.map fun library =>
    "Bundles." ++ memberName entry.1 ++ ".add(Libraries." ++ identifier library ++ ")"

/-- The block that fills the bundles, with an empty line between two of them. -/
def bundleBlock (bundles : List (String × Bundle)) : List String :=
  "init \x7b" :: indent (List.intercalate [""] (bundles.map bundleStatements)) ++ ["\x7d"]

/-- The object of a section: every declaration after an empty line and its annotation, then the
lines of a closing block. There is none without declarations. -/
def objectBlock (name : String) (declarations : List Declaration) (closing : List String) :
    Option String :=
  if declarations.isEmpty then none
  else
    let members := declarations.flatMap fun d => "" :: "@JvmStatic" :: d.lines
    let body := if closing.isEmpty then members else members ++ "" :: closing
    some (Text.unlines (indent (("object " ++ name ++ " \x7b") :: indent body ++ ["\x7d"])))

/-- The entries of a section that are not empty. -/
def liveEntries {α : Type} (isEmpty : α → Bool) (s : Section α) : List (String × α) :=
  s.entries.filter (!isEmpty ·.2)

def versionsObject (s : Section Version) : Option String :=
  objectBlock "Versions"
    ((liveEntries Version.isEmpty s).map fun entry => versionDeclaration entry.1 entry.2) []

def librariesObject (s : Section Library) : Option String :=
  objectBlock "Libraries"
    ((liveEntries Library.isEmpty s).map fun entry => libraryDeclaration entry.1 entry.2) []

def bundlesObject (s : Section Bundle) : Option String :=
  let bundles := liveEntries Bundle.isEmpty s
  objectBlock "Bundles" (bundles.map fun entry => bundleDeclaration entry.1 entry.2)
    (bundleBlock bundles)

def pluginsObject (s : Section Plugin) : Option String :=
  objectBlock "Plugins"
    ((liveEntries Plugin.isEmpty s).map fun entry => pluginDeclaration entry.1 entry.2) []

/-- The objects of a catalog's sections with content. -/
def objects (catalog : Catalog) : List String :=
  [versionsObject catalog.versions, librariesObject catalog.libraries,
    bundlesObject catalog.bundles, pluginsObject catalog.plugins].filterMap id

/-- What a generated file says besides the catalog. -/
structure Options where
  package : String
  typeName : String
  version : String
  year : Int
  deriving Repr

/-- What stands above the class: licence, package, imports and the description of the class. -/
def preamble (catalog : Catalog) (options : Options) : String :=
  licenseHeader options.year ++ "\n" ++
    "package " ++ options.package ++ "\n\n" ++
    imports catalog ++ "\n" ++
    classDoc options.version

/-- The class, from the line that opens it to the brace that closes it. -/
def classText (catalog : Catalog) (options : Options) : String :=
  "class " ++ identifier options.typeName ++ " private constructor() \x7b\n\n" ++
    Text.joinWith "\n" (objects catalog) ++ "\x7d\n"

/-- The source of the class for a catalog, empty if the catalog has no content. -/
def source (catalog : Catalog) (options : Options) : String :=
  if (objects catalog).isEmpty then "" else preamble catalog options ++ classText catalog options

end VersionCatalog.Kotlin
