import VersionCatalog.Catalog.OfNode
import VersionCatalog.Proofs.Toml.WrittenDocument

namespace VersionCatalog

open Toml (Node ReadsFields ReadsValue basicString writeArray writeTable readsValue_basicString
  readsValue_writeArray readsValue_writeTable)

def Version.fields (v : Version) : List (String × List Char) := [
  ("require", basicString v.required),
  ("strictly", basicString v.strict),
  ("prefer", basicString v.preferred),
  ("reject", writeArray v.rejected)]

def Version.toNode (v : Version) : Node := .table [
  ("require", .string v.required),
  ("strictly", .string v.strict),
  ("prefer", .string v.preferred),
  ("reject", .array (v.rejected.map .string))]

def Library.fields (bare : Bool) (l : Library) : List (String × List Char) := [
  ("group", basicString l.group),
  ("name", basicString l.name),
  ("version", writeTable bare l.version.fields)]

def Library.toNode (l : Library) : Node := .table [
  ("group", .string l.group),
  ("name", .string l.name),
  ("version", l.version.toNode)]

def Plugin.fields (bare : Bool) (p : Plugin) : List (String × List Char) := [
  ("id", basicString p.id),
  ("version", writeTable bare p.version.fields)]

def Plugin.toNode (p : Plugin) : Node := .table [
  ("id", .string p.id),
  ("version", p.version.toNode)]

def Bundle.toNode (b : Bundle) : Node :=
  .array (b.libraries.map .string)

/-- The keys of a section with what is written for their values. -/
def Section.written {α β : Type} (write : α → β) (s : Section α) : List (String × β) :=
  s.entries.map fun entry => (entry.1, write entry.2)

namespace Catalog

def writtenParts (bare : Bool) (c : Catalog) : List (String × List (String × List Char)) := [
  ("versions", c.versions.written fun v => writeTable bare v.fields),
  ("libraries", c.libraries.written fun l => writeTable bare (l.fields bare)),
  ("plugins", c.plugins.written fun p => writeTable bare (p.fields bare)),
  ("bundles", c.bundles.written fun b => writeArray b.libraries)]

def parts (c : Catalog) : List (String × List (String × Node)) := [
  ("versions", c.versions.written Version.toNode),
  ("libraries", c.libraries.written Library.toNode),
  ("plugins", c.plugins.written Plugin.toNode),
  ("bundles", c.bundles.written Bundle.toNode)]

def toNode (c : Catalog) : Node :=
  .table (c.parts.map fun part => (part.1, .table part.2))

/-- The document of a catalog. Its keys and texts are basic strings; only the names of fields may be
bare, as those of the sections are. -/
def toToml (bare : Bool) (c : Catalog) : String :=
  Toml.writeDocument (c.writtenParts bare)

end Catalog

private theorem readsValue_version (bare : Bool) (depth : Nat) (v : Version) :
    ReadsValue (depth + 2) (writeTable bare v.fields) v.toNode := by
  have hkeys : ["require", "strictly", "prefer", "reject"].Nodup := by decide
  have htext (text : String) := readsValue_basicString (depth + 1) text
  have hfields : ReadsFields (depth + 1) v.fields _ :=
    .field (by decide) (htext v.required) (.field (by decide) (htext v.strict)
      (.field (by decide) (htext v.preferred)
        (.field (by decide) (readsValue_writeArray depth v.rejected) .nil)))
  exact readsValue_writeTable bare hfields (by simp [Version.fields]) hkeys

private theorem readsValue_library (bare : Bool) (depth : Nat) (l : Library) :
    ReadsValue (depth + 3) (writeTable bare (l.fields bare)) l.toNode := by
  have hkeys : ["group", "name", "version"].Nodup := by decide
  have htext (text : String) := readsValue_basicString (depth + 2) text
  have hfields : ReadsFields (depth + 2) (l.fields bare) _ :=
    .field (by decide) (htext l.group) (.field (by decide) (htext l.name)
      (.field (by decide) (readsValue_version bare depth l.version) .nil))
  exact readsValue_writeTable bare hfields (by simp [Library.fields]) hkeys

private theorem readsValue_plugin (bare : Bool) (depth : Nat) (p : Plugin) :
    ReadsValue (depth + 3) (writeTable bare (p.fields bare)) p.toNode := by
  have hkeys : ["id", "version"].Nodup := by decide
  have hfields : ReadsFields (depth + 2) (p.fields bare) _ :=
    .field (by decide) (readsValue_basicString (depth + 2) p.id)
      (.field (by decide) (readsValue_version bare depth p.version) .nil)
  exact readsValue_writeTable bare hfields (by simp [Plugin.fields]) hkeys

private theorem filterMap_strings {f : Node → Option String}
    (hf : ∀ text, f (.string text) = some text)
    (texts : List String) : (texts.map Node.string).filterMap f = texts := by
  simp [List.filterMap_map, hf]

private theorem ofNode_version (v : Version) : Version.ofNode v.toNode = v := by
  have hrejected := filterMap_strings (f := Node.text?) (fun _ => rfl) v.rejected
  simp [Version.ofNode, Version.toNode, Node.get?, Node.textAt, Node.text?, Node.array?,
    List.lookup_cons, hrejected]

private theorem resolve_version (declared : Section Version) (v : Version) :
    Version.resolve declared (some v.toNode) = v := by
  have href : v.toNode.get? "ref" = none := rfl
  rw [Version.resolve, href]
  exact ofNode_version v

private theorem ofNode_library (declared : Section Version) (l : Library) :
    Library.ofNode declared l.toNode = l := by
  have hmodule : l.toNode.get? "module" = none := rfl
  have hversion : l.toNode.get? "version" = some l.version.toNode := rfl
  have hgroup : l.toNode.textAt "group" = l.group := rfl
  have hname : l.toNode.textAt "name" = l.name := rfl
  rw [Library.toNode] at hmodule hversion hgroup hname ⊢
  simp only [Library.ofNode, hmodule, hversion, hgroup, hname, resolve_version, Option.bind_none]

private theorem ofNode_plugin (declared : Section Version) (p : Plugin) :
    Plugin.ofNode declared p.toNode = p := by
  have hversion : p.toNode.get? "version" = some p.version.toNode := rfl
  have hid : p.toNode.textAt "id" = p.id := rfl
  rw [Plugin.toNode] at hversion hid ⊢
  simp only [Plugin.ofNode, hversion, hid, resolve_version]

/-- The names of libraries come back if they are names of values already. -/
theorem ofNode_bundle {b : Bundle} (h : ∀ library ∈ b.libraries, Naming.camelCase library = library) :
    Bundle.ofNode b.toNode = b := by
  have hlibraries := filterMap_strings (f := Node.string?) (fun _ => rfl) b.libraries
  have hnames : b.libraries.map Naming.camelCase = b.libraries := by
    rw [List.map_congr_left h, List.map_id']
  simp [Bundle.ofNode, Bundle.toNode, Node.array?, hlibraries, hnames]

/-- A section of a document whose entries are read back one by one is read back as a whole. -/
theorem readSection_written {α : Type} {read : Node → α} {toNode : α → Node} {s : Section α}
    {document : Node} {name : String} (hkeys : s.keys.Nodup)
    (hsection : document.get? name = some (.table (s.written toNode)))
    (hread : ∀ entry ∈ s.entries, read (toNode entry.2) = entry.2) :
    Catalog.readSection read document name = s := by
  have hentries : (Catalog.sectionOf document name).map (fun entry => (entry.1, read entry.2)) =
      s.entries := by
    have hsame : ∀ entry ∈ s.entries, (entry.1, read (toNode entry.2)) = entry := by
      intro entry hentry
      rw [hread entry hentry]
    rw [Catalog.sectionOf, hsection, Option.bind_some, Node.table?, Option.getD_some,
      Section.written, List.map_map]
    exact (List.map_congr_left hsame).trans (List.map_id _)
  rw [Catalog.readSection, hentries]
  exact Section.ofList_of_nodup hkeys

private theorem readsEntries_written {α : Type} {write : α → List Char} {toNode : α → Node}
    (s : Section α)
    (h : ∀ a, ReadsValue Toml.depthLimit (write a) (toNode a)) :
    Toml.ReadsEntries (s.written write) (s.written toNode) :=
  List.forall₂_map_left_iff.mpr (List.forall₂_map_right_iff.mpr
    (List.forall₂_same.mpr fun entry _ => ⟨rfl, h entry.2⟩))

private theorem parse?_toToml (bare : Bool) {c : Catalog} (hversions : c.versions.keys.Nodup)
    (hlibraries : c.libraries.keys.Nodup) (hplugins : c.plugins.keys.Nodup)
    (hbundles : c.bundles.keys.Nodup) : Toml.parse? (c.toToml bare) = some c.toNode := by
  have hreads : Toml.ReadsParts (c.writtenParts bare) c.parts :=
    .part (by decide) (readsEntries_written c.versions (readsValue_version bare 77))
      (.part (by decide) (readsEntries_written c.libraries (readsValue_library bare 76))
        (.part (by decide) (readsEntries_written c.plugins (readsValue_plugin bare 76))
          (.part (by decide) (readsEntries_written c.bundles fun b =>
            readsValue_writeArray 78 b.libraries) .nil)))
  have hnames : ["versions", "libraries", "plugins", "bundles"].Nodup := by decide
  have hwritten {α β : Type} (write : α → β) (s : Section α) :
      (s.written write).map Prod.fst = s.keys := by
    simp [Section.written, Section.keys]
  have hkeys : ∀ part ∈ c.parts, (part.2.map Prod.fst).Nodup := by
    simp only [Catalog.parts, List.mem_cons, List.not_mem_nil, or_false, forall_eq_or_imp,
      forall_eq, hwritten]
    exact ⟨hversions, hlibraries, hplugins, hbundles⟩
  exact Toml.parse?_writeDocument hreads hnames hkeys

private theorem ofNode_toNode {c : Catalog} (hversions : c.versions.keys.Nodup)
    (hlibraries : c.libraries.keys.Nodup) (hplugins : c.plugins.keys.Nodup)
    (hbundles : c.bundles.keys.Nodup)
    (hmembers : ∀ entry ∈ c.bundles.entries, ∀ library ∈ entry.2.libraries,
      Naming.camelCase library = library) : Catalog.ofNode c.toNode = c := by
  have hv : Catalog.readSection Version.ofNode c.toNode "versions" = c.versions :=
    readSection_written hversions rfl fun entry _ => ofNode_version entry.2
  have hl : Catalog.readSection (Library.ofNode c.versions) c.toNode "libraries" = c.libraries :=
    readSection_written hlibraries rfl fun entry _ => ofNode_library c.versions entry.2
  have hp : Catalog.readSection (Plugin.ofNode c.versions) c.toNode "plugins" = c.plugins :=
    readSection_written hplugins rfl fun entry _ => ofNode_plugin c.versions entry.2
  have hb : Catalog.readSection Bundle.ofNode c.toNode "bundles" = c.bundles :=
    readSection_written hbundles rfl fun entry hentry => ofNode_bundle (hmembers entry hentry)
  rw [Catalog.ofNode, hv, hl, hp, hb]

/-- A catalog with distinct keys in every section, and with bundles of value names, is read back from
its document unchanged: the same keys, values and order, whatever its texts are. -/
theorem map_ofNode_parse?_toToml (bare : Bool) (c : Catalog) (hversions : c.versions.keys.Nodup)
    (hlibraries : c.libraries.keys.Nodup) (hplugins : c.plugins.keys.Nodup)
    (hbundles : c.bundles.keys.Nodup)
    (hmembers : ∀ entry ∈ c.bundles.entries, ∀ library ∈ entry.2.libraries,
      Naming.camelCase library = library) :
    (Toml.parse? (c.toToml bare)).map Catalog.ofNode = some c := by
  rw [parse?_toToml bare hversions hlibraries hplugins hbundles, Option.map_some,
    ofNode_toNode hversions hlibraries hplugins hbundles hmembers]

/-- A catalog with empty keys and texts, quotes, backslashes, line breaks and signs of the format. -/
def awkwardCatalog : Catalog where
  versions := ⟨[("", { required := "\"\"\"", rejected := ["", "]", "\\"] }), ("a.b = \n", {})]⟩
  libraries := ⟨[("#", { group := "\r\n\t", name := "\x7f\x00é", version := { strict := "'" } })]⟩
  plugins := ⟨[("[plugins]", { id := "", version := { preferred := "\\u0041" } })]⟩
  bundles := ⟨[("\x7d", { libraries := ["", "libA", "libA"] }), (",", {})]⟩

theorem awkwardCatalog_is_read_back :
    (awkwardCatalog.versions.keys.Nodup ∧ awkwardCatalog.libraries.keys.Nodup ∧
      awkwardCatalog.plugins.keys.Nodup ∧ awkwardCatalog.bundles.keys.Nodup ∧
      ∀ entry ∈ awkwardCatalog.bundles.entries, ∀ library ∈ entry.2.libraries,
        Naming.camelCase library = library) ∧
    (Toml.parse? (awkwardCatalog.toToml false)).map Catalog.ofNode = some awkwardCatalog := by
  have hversions : awkwardCatalog.versions.keys.Nodup := by decide
  have hlibraries : awkwardCatalog.libraries.keys.Nodup := by decide
  have hplugins : awkwardCatalog.plugins.keys.Nodup := by decide
  have hbundles : awkwardCatalog.bundles.keys.Nodup := by decide
  have hmembers : ∀ entry ∈ awkwardCatalog.bundles.entries, ∀ library ∈ entry.2.libraries,
      Naming.camelCase library = library := by
    decide
  exact ⟨⟨hversions, hlibraries, hplugins, hbundles, hmembers⟩,
    map_ofNode_parse?_toToml false awkwardCatalog hversions hlibraries hplugins hbundles hmembers⟩

end VersionCatalog
