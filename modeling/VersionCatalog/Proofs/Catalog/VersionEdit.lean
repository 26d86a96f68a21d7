import VersionCatalog.Proofs.Catalog.References

namespace VersionCatalog

open Toml (Node)

/-- The document in which the version `key` is `node`; a version that is already there keeps its
place. -/
def setVersion (document : Node) (key : String) (node : Node) : Node :=
  match document with
  | .table parts =>
    let versions := KeyedList.put key node (Catalog.sectionOf document "versions")
    .table (KeyedList.put "versions" (.table versions) parts)
  | _ => document

/-- The version that an entry of a section refers to. -/
def versionReference? (document : Node) (part name : String) : Option String :=
  (document.find? [part, name, "version"]).bind Version.reference?

private theorem find?_entry (document : Node) (part name : String) (path : List String) :
    document.find? (part :: name :: path) =
      ((Catalog.sectionOf document part).lookup name).bind (Node.find? · path) := by
  rw [Catalog.sectionOf, Node.find?]
  cases document.get? part with
  | none => rfl
  | some entries => cases entries <;> rfl

private theorem versionReference?_eq (document : Node) (part name : String) :
    versionReference? document part name =
      ((Catalog.sectionOf document part).lookup name).bind fun entry =>
        (entry.get? "version").bind Version.reference? := by
  rw [versionReference?, find?_entry, Option.bind_assoc]
  simp [Node.find?]

theorem Version.resolve_insert (declared : Section Version) (key : String) (version : Version)
    (node : Option Node) :
    Version.resolve (declared.insert key version) node =
      if node.bind Version.reference? = some key then version
      else Version.resolve declared node := by
  cases node with
  | none => rfl
  | some node =>
    rw [Version.resolve_some, Version.resolve_some, Option.bind_some]
    cases Version.reference? node with
    | none => rfl
    | some other =>
      simp only [Section.get?_insert, Option.some.injEq]
      split <;> rfl

theorem Library.ofNode_insert (declared : Section Version) (key : String) (version : Version)
    (entry : Node) :
    Library.ofNode (declared.insert key version) entry =
      if (entry.get? "version").bind Version.reference? = some key then
        { Library.ofNode declared entry with version }
      else Library.ofNode declared entry := by
  cases entry with
  | table fields =>
    rw [Library.ofNode_table (declared.insert key version) declared, Node.get?,
      Version.resolve_insert]
    split
    · rfl
    · exact (Library.ofNode_table declared declared fields).symm
  | _ => rfl

theorem Plugin.ofNode_insert (declared : Section Version) (key : String) (version : Version)
    (entry : Node) :
    Plugin.ofNode (declared.insert key version) entry =
      if (entry.get? "version").bind Version.reference? = some key then
        { Plugin.ofNode declared entry with version }
      else Plugin.ofNode declared entry := by
  cases entry with
  | table fields =>
    simp only [Plugin.ofNode, Version.resolve_insert]
    split <;> rfl
  | _ => rfl

variable {document : Node}

private theorem sectionOf_setVersion_self (htable : document.isTable = true) (key : String)
    (node : Node) :
    Catalog.sectionOf (setVersion document key node) "versions" =
      KeyedList.put key node (Catalog.sectionOf document "versions") := by
  cases document with
  | table parts =>
    rw [Catalog.sectionOf, setVersion, Node.get?, KeyedList.lookup_put, if_pos rfl]
    rfl
  | _ => cases htable

/-- The parts of the document other than its versions stay as they are. -/
theorem sectionOf_setVersion (key : String) (node : Node) {part : String}
    (hpart : part ≠ "versions") :
    Catalog.sectionOf (setVersion document key node) part = Catalog.sectionOf document part := by
  cases document with
  | table parts =>
    rw [Catalog.sectionOf, setVersion, Node.get?, KeyedList.lookup_put, if_neg hpart]
    rfl
  | _ => rfl

private theorem readSection_setVersion_self (hkeys : document.DistinctKeys)
    (htable : document.isTable = true) (key : String) (node : Node) :
    Catalog.readSection Version.ofNode (setVersion document key node) "versions" =
      (Catalog.readSection Version.ofNode document "versions").insert key (.ofNode node) := by
  have hsection := sectionOf_setVersion_self htable key node
  have hnodup := Catalog.nodup_sectionOf hkeys "versions"
  have hnodup' : ((Catalog.sectionOf (setVersion document key node) "versions").map
      Prod.fst).Nodup := by
    rw [hsection]
    exact KeyedList.nodup_keys_put key node hnodup
  rw [Catalog.readSection_of_nodup hnodup', Catalog.readSection_of_nodup hnodup, hsection,
    KeyedList.map_put, Section.insert]

/-- The entries of the edited document are those of the document, read with the changed versions. -/
theorem ofNode_setVersion (hkeys : document.DistinctKeys) (htable : document.isTable = true)
    (key : String) (node : Node) :
    Catalog.ofNode (setVersion document key node) =
      let versions := (Catalog.ofNode document).versions.insert key (.ofNode node)
      { versions
        libraries := Catalog.readSection (Library.ofNode versions) document "libraries"
        plugins := Catalog.readSection (Plugin.ofNode versions) document "plugins"
        bundles := (Catalog.ofNode document).bundles } := by
  have hread {α : Type} (read : Node → α) {part : String} (hpart : part ≠ "versions") :
      Catalog.readSection read (setVersion document key node) part =
        Catalog.readSection read document part := by
    rw [Catalog.readSection, sectionOf_setVersion key node hpart, Catalog.readSection]
  rw [Catalog.ofNode, readSection_setVersion_self hkeys htable, hread _ (by decide),
    hread _ (by decide), hread _ (by decide), Catalog.ofNode]

/-- Where two readings of a section differ in the entries that refer to one version only, so do the
sections. -/
theorem get?_readSection_of_reference {α : Type} {read read' : Node → α} {change : α → α}
    {key : String} (hkeys : document.DistinctKeys)
    (hread : ∀ entry, read' entry =
      if (entry.get? "version").bind Version.reference? = some key then change (read entry)
      else read entry) (part name : String) :
    (Catalog.readSection read' document part).get? name =
      ((Catalog.readSection read document part).get? name).map fun value =>
        if versionReference? document part name = some key then change value else value := by
  have hnodup := Catalog.nodup_sectionOf hkeys part
  rw [Catalog.get?_readSection hnodup, Catalog.get?_readSection hnodup, versionReference?_eq]
  cases (Catalog.sectionOf document part).lookup name with
  | none => rfl
  | some entry => exact congrArg some (hread entry)

/-- Setting a version changes no bundle, no key of a library or a plugin and no other version. The
libraries and plugins that change are those that refer to the version, and only their versions do,
to what it is now. -/
theorem setVersion_changes_references {versions : List (String × Node)}
    (hkeys : document.DistinctKeys) (hversions : document.get? "versions" = some (.table versions))
    (key : String) (node : Node) :
    let before := Catalog.ofNode document
    let after := Catalog.ofNode (setVersion document key node)
    after.bundles = before.bundles ∧
    after.libraries.keys = before.libraries.keys ∧
    after.plugins.keys = before.plugins.keys ∧
    after.versions = before.versions.insert key (.ofNode node) ∧
    after.versions.entries.filter (·.1 ≠ key) = before.versions.entries.filter (·.1 ≠ key) ∧
    (∀ name, after.libraries.get? name = (before.libraries.get? name).map fun library =>
      if versionReference? document "libraries" name = some key then
        { library with version := .ofNode node }
      else library) ∧
    (∀ name, after.plugins.get? name = (before.plugins.get? name).map fun plugin =>
      if versionReference? document "plugins" name = some key then
        { plugin with version := .ofNode node }
      else plugin) := by
  intro before after
  have htable : document.isTable = true := by
    cases document with
    | table parts => rfl
    | _ => cases hversions
  have hafter : after = _ := ofNode_setVersion hkeys htable key node
  have hlibraries := Catalog.nodup_sectionOf hkeys "libraries"
  have hplugins := Catalog.nodup_sectionOf hkeys "plugins"
  -- libraries and plugins are those of the same document, read with other versions
  rw [hafter]
  refine ⟨rfl, ?_, ?_, rfl, ?_, fun name => ?_, fun name => ?_⟩
  · rw [Catalog.keys_readSection hlibraries]
    exact (Catalog.keys_readSection hlibraries _).symm
  · rw [Catalog.keys_readSection hplugins]
    exact (Catalog.keys_readSection hplugins _).symm
  · exact KeyedList.filter_put key _ before.versions.entries
  · exact get?_readSection_of_reference hkeys
      (Library.ofNode_insert before.versions key _) "libraries" name
  · exact get?_readSection_of_reference hkeys
      (Plugin.ofNode_insert before.versions key _) "plugins" name

/-- A version that is a table is set to another table, whose own reference is passed over. -/
def raisedVersion : Node := .table [("require", .string "3"), ("ref", .string "plain")]

theorem referringDocument_is_raised :
    let before := Catalog.ofNode referringDocument
    let after := Catalog.ofNode (setVersion referringDocument "rich" raisedVersion)
    referringDocument.DistinctKeys ∧
    ((referringDocument.get? "versions").bind Node.table?).isSome = true ∧
    after.versions = before.versions.insert "rich" { required := "3" } ∧
    before.libraries.get? "core" =
      some ⟨"a", "core", { preferred := "1.9", rejected := ["1"] }⟩ ∧
    after.libraries.get? "core" = some ⟨"a", "core", { required := "3" }⟩ ∧
    after.libraries.get? "lost" = before.libraries.get? "lost" ∧
    after.plugins.get? "tool" = before.plugins.get? "tool" := by
  intro before after
  obtain ⟨-, -, -, hversions, -, hlibraries, hplugins⟩ :=
    setVersion_changes_references distinctKeys_referringDocument rfl "rich" raisedVersion
  refine ⟨distinctKeys_referringDocument, rfl, hversions, ?_, ?_, ?_, ?_⟩
  · decide
  · exact (hlibraries "core").trans (by decide)
  · exact (hlibraries "lost").trans (by decide)
  · exact (hplugins "tool").trans (by decide)

end VersionCatalog
