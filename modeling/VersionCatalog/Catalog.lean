import VersionCatalog.Section
import VersionCatalog.Text.Blank

namespace VersionCatalog

/-- A rule for the version of a dependency: the version asked for, the only one allowed, the one
preferred, and those refused. -/
structure Version where
  required : String := ""
  strict : String := ""
  preferred : String := ""
  rejected : List String := []
  deriving DecidableEq, Repr, Inhabited

/-- A library by group and name, with the rule for its version. -/
structure Library where
  group : String := ""
  name : String := ""
  version : Version := {}
  deriving DecidableEq, Repr, Inhabited

structure Plugin where
  id : String := ""
  version : Version := {}
  deriving DecidableEq, Repr, Inhabited

structure Bundle where
  libraries : List String := []
  deriving DecidableEq, Repr, Inhabited

/-- A catalog. What was written without sense is an empty entry, and empty entries stay in it. -/
structure Catalog where
  versions : Section Version := .empty
  libraries : Section Library := .empty
  plugins : Section Plugin := .empty
  bundles : Section Bundle := .empty
  deriving DecidableEq, Repr

namespace Version

/-- The text that stands for every version in a list of rejected versions. -/
def everyVersion : String := "+"

def ofRequired (version : String) : Version :=
  { required := version }

/-- The rule that no version satisfies. -/
def rejectAll : Version :=
  { rejected := [everyVersion] }

def isRejectAll (v : Version) : Bool :=
  v == rejectAll

/-- A rule is empty if it names no version: its texts are blank and it rejects nothing. -/
def isEmpty (v : Version) : Bool :=
  Text.isBlank v.required && Text.isBlank v.strict && Text.isBlank v.preferred &&
    v.rejected.isEmpty

/-- One text for the rule: the first of the required, strict and preferred versions that is not
blank, or else the preferred one. -/
def display (v : Version) : String :=
  if !Text.isBlank v.required then v.required
  else if !Text.isBlank v.strict then v.strict
  else v.preferred

end Version

/-- A library is empty unless both its group and its name are there. -/
def Library.isEmpty (l : Library) : Bool :=
  Text.isBlank l.group || Text.isBlank l.name

/-- A plugin is empty if its id is blank. -/
def Plugin.isEmpty (p : Plugin) : Bool :=
  Text.isBlank p.id

/-- A bundle is empty if it names no library. -/
def Bundle.isEmpty (b : Bundle) : Bool :=
  b.libraries.isEmpty

/-- The four kinds of sections, in the order in which catalogs are presented. -/
inductive SectionKind where
  | versions
  | libraries
  | bundles
  | plugins
  deriving DecidableEq, Repr

namespace Catalog

/-- Whether the section of the given kind has an entry that is not empty. -/
def hasContent (c : Catalog) : SectionKind → Bool
  | .versions => c.versions.entries.any (!·.2.isEmpty)
  | .libraries => c.libraries.entries.any (!·.2.isEmpty)
  | .bundles => c.bundles.entries.any (!·.2.isEmpty)
  | .plugins => c.plugins.entries.any (!·.2.isEmpty)

/-- A catalog is blank if all its entries are empty. -/
def isBlank (c : Catalog) : Bool :=
  c.versions.entries.all (·.2.isEmpty) && c.libraries.entries.all (·.2.isEmpty) &&
    c.plugins.entries.all (·.2.isEmpty) && c.bundles.entries.all (·.2.isEmpty)

end Catalog

end VersionCatalog
