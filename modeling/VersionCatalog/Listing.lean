import VersionCatalog.Catalog
import VersionCatalog.Naming
import VersionCatalog.Text.Pieces

namespace VersionCatalog.Listing

def versionText (v : Version) : String :=
  if v.isRejectAll then "reject all" else v.display

/-- A version after the library or plugin it belongs to; an empty one is left out. -/
def versionSuffix (v : Version) : String :=
  if v.isEmpty then "" else ":" ++ versionText v

def entryLine (key value : String) (skipped : Bool) : String :=
  "  " ++ Naming.camelCase key ++ " = " ++ value ++ (if skipped then " (skipped)" else "")

/-- The lines of a section: none if it has no entries, or else the header and the entries. -/
def sectionLines {α : Type} (name : String) (text : α → String) (isEmpty : α → Bool)
    (s : Section α) : List String :=
  if s.isEmpty then []
  else ("[" ++ name ++ "]") ::
    s.entries.map fun entry => entryLine entry.1 (text entry.2) (isEmpty entry.2)

/-- The listing of a catalog for a reader: one line per entry under the headers of the sections, with
a mark on the entries for which nothing is generated. -/
def lines (catalog : Catalog) : List String :=
  sectionLines "versions" versionText Version.isEmpty catalog.versions ++
  sectionLines "libraries" (fun l => l.group ++ ":" ++ l.name ++ versionSuffix l.version)
    Library.isEmpty catalog.libraries ++
  sectionLines "bundles" (fun b => Text.joinWith ", " b.libraries) Bundle.isEmpty
    catalog.bundles ++
  sectionLines "plugins" (fun p => p.id ++ versionSuffix p.version) Plugin.isEmpty
    catalog.plugins ++
  (if catalog.isBlank then ["Nothing to generate"] else [])

end VersionCatalog.Listing
