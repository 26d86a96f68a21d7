import VersionCatalog.Catalog
import VersionCatalog.Naming
import VersionCatalog.Text.Pieces
import VersionCatalog.Toml.Node

namespace VersionCatalog

open Toml (Node)

/-- A version from its node. A text asks for that version; in a table `rejectAll = true` wins over
everything else. -/
def Version.ofNode (node : Node) : Version :=
  match node with
  | .string text => .ofRequired text
  | .literal raw => .ofRequired raw
  | .table _ =>
    if (node.get? "rejectAll").bind Node.boolean? = some true then .rejectAll
    else
      { required := node.textAt "require"
        strict := node.textAt "strictly"
        preferred := node.textAt "prefer"
        rejected := (((node.get? "reject").bind Node.array?).getD []).filterMap Node.text? }
  | _ => {}

/-- The version of a library or plugin: none is the empty rule, a reference is looked up among the
declared versions, and anything else is a version of its own. -/
def Version.resolve (declared : Section Version) : Option Node → Version
  | none => {}
  | some node =>
    match (node.get? "ref").bind Node.text? with
    | some key => (declared.get? key).getD {}
    | none => .ofNode node

namespace Library

/-- A library written `group:name` or `group:name:version`. -/
def ofNotation (text : String) : Library :=
  match (Text.pieces (· == ':') text.toList).map String.ofList with
  | [group, name] => { group, name }
  | [group, name, version] => { group, name, version := .ofRequired version }
  | _ => {}

/-- The group and the name of a module written `group:name`; both are empty in any other text. -/
def splitModule (text : String) : String × String :=
  match Text.splitFirst? ':' text.toList with
  | some (group, name) =>
    if name.contains ':' then ("", "") else (String.ofList group, String.ofList name)
  | none => ("", "")

/-- A library from its node. In a table a text at `module` wins over `group` and `name`. -/
def ofNode (declared : Section Version) (node : Node) : Library :=
  match node with
  | .string text => ofNotation text
  | .table _ =>
    let version := Version.resolve declared (node.get? "version")
    match (node.get? "module").bind Node.string? with
    | some text =>
      let (group, name) := splitModule text
      { group, name, version }
    | none => { group := node.textAt "group", name := node.textAt "name", version }
  | _ => {}

end Library

/-- A plugin from its node, which has to be a table. -/
def Plugin.ofNode (declared : Section Version) (node : Node) : Plugin :=
  match node with
  | .table _ =>
    { id := node.textAt "id", version := Version.resolve declared (node.get? "version") }
  | _ => {}

/-- A bundle from its node: the strings of an array, as the names of the libraries' values. -/
def Bundle.ofNode (node : Node) : Bundle :=
  { libraries := ((node.array?.getD []).filterMap Node.string?).map Naming.camelCase }

namespace Catalog

/-- The entries of a document's section, none if it is missing or not a table. -/
def sectionOf (document : Node) (name : String) : List (String × Node) :=
  ((document.get? name).bind Node.table?).getD []

/-- The section whose entries are read one by one from a document's section. -/
def readSection {α : Type} (read : Node → α) (document : Node) (name : String) : Section α :=
  .ofList ((sectionOf document name).map fun entry => (entry.1, read entry.2))

/-- The catalog of a document. Nothing is refused: what has no meaning becomes an empty entry, and
unknown keys are passed over. The versions are read first, so that references find all of them
wherever they stand. -/
def ofNode (document : Node) : Catalog :=
  let versions := readSection Version.ofNode document "versions"
  { versions
    libraries := readSection (Library.ofNode versions) document "libraries"
    plugins := readSection (Plugin.ofNode versions) document "plugins"
    bundles := readSection Bundle.ofNode document "bundles" }

end Catalog

end VersionCatalog
