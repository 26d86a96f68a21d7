import Mathlib.Tactic.SplitIfs
import VersionCatalog.Proofs.Catalog.References
import VersionCatalog.Proofs.Toml.Rearranged

namespace VersionCatalog

open Toml (Node)
open Toml.Node (Entrywise TableRearranged KeepsDistinct)

/-- The fields of a version that is a table. -/
def Version.fieldNames : List String :=
  ["rejectAll", "require", "strictly", "prefer", "reject"]

/-- No change of the values at known keys. -/
def NoChange (_ : String) (_ _ : Node) : Prop := False

/-- A declared version with its fields rearranged. -/
abbrev VersionRearranged : Node → Node → Prop :=
  TableRearranged Version.fieldNames NoChange

/-- The version of a library or a plugin with its fields rearranged; here a reference is known. -/
abbrev OwnVersionRearranged : Node → Node → Prop :=
  TableRearranged ("ref" :: Version.fieldNames) NoChange

/-- In libraries and plugins the version can be rearranged in itself. -/
def OwnVersionChange (key : String) (node node' : Node) : Prop :=
  key = "version" ∧ OwnVersionRearranged node node'

abbrev LibraryRearranged : Node → Node → Prop :=
  TableRearranged ["module", "group", "name", "version"] OwnVersionChange

abbrev PluginRearranged : Node → Node → Prop :=
  TableRearranged ["id", "version"] OwnVersionChange

/-- How the entries of a part may change; those of bundles may not. -/
def EntryRearranged (name : String) : Node → Node → Prop :=
  if name = "versions" then VersionRearranged
  else if name = "libraries" then LibraryRearranged
  else if name = "plugins" then PluginRearranged
  else Eq

/-- How the parts of a document may change: entry by entry. -/
def PartChange (name : String) : Node → Node → Prop :=
  Entrywise fun _ => EntryRearranged name

/-- A document, and one in which its parts are moved, its entries rearranged, and other parts come
or go. -/
abbrev DocumentRearranged : Node → Node → Prop :=
  TableRearranged ["versions", "libraries", "plugins", "bundles"] PartChange

private theorem keepsDistinct_noChange : KeepsDistinct NoChange :=
  fun _ _ _ h => h.elim

private theorem keepsDistinct_ownVersionChange : KeepsDistinct OwnVersionChange :=
  fun _ _ _ h => h.2.distinctKeys keepsDistinct_noChange

private theorem keepsDistinct_partChange : KeepsDistinct PartChange := by
  intro name part part' h hpart
  refine h.distinctKeys (fun key entry entry' hentry hdistinct => ?_) hpart
  rw [EntryRearranged] at hentry
  split_ifs at hentry
  · exact hentry.distinctKeys keepsDistinct_noChange hdistinct
  · exact hentry.distinctKeys keepsDistinct_ownVersionChange hdistinct
  · exact hentry.distinctKeys keepsDistinct_ownVersionChange hdistinct
  · exact hentry ▸ hdistinct

variable {node node' : Node}

/-- Other fields than those of a version do not matter. -/
theorem Version.ofNode_congr {fields others : List (String × Node)}
    (h : ∀ key ∈ Version.fieldNames, (Node.table others).get? key = (Node.table fields).get? key) :
    Version.ofNode (.table others) = Version.ofNode (.table fields) := by
  simp only [Version.fieldNames, List.mem_cons, List.not_mem_nil, or_false, forall_eq_or_imp,
    forall_eq] at h
  obtain ⟨hrejectAll, hrequire, hstrictly, hprefer, hreject⟩ := h
  simp only [Version.ofNode, Node.textAt]
  rw [hrejectAll, hrequire, hstrictly, hprefer, hreject]

theorem Version.ofNode_of_rearranged (h : VersionRearranged node node')
    (hnode : node.DistinctKeys) : Version.ofNode node' = Version.ofNode node := by
  cases h with
  | same => rfl
  | table h =>
    exact Version.ofNode_congr fun key hkey =>
      h.lookup_eq keepsDistinct_noChange hnode hkey fun _ _ hchange => hchange

/-- A rearranged version refers to what it referred to, or else it is read as it was. -/
theorem Version.resolve_of_rearranged (declared : Section Version)
    (h : OwnVersionRearranged node node') (hnode : node.DistinctKeys) :
    Version.resolve declared (some node') = Version.resolve declared (some node) := by
  cases h with
  | same => rfl
  | @table fields others h =>
    have hget : ∀ key ∈ "ref" :: Version.fieldNames,
        (Node.table others).get? key = (Node.table fields).get? key := fun key hkey =>
      h.lookup_eq keepsDistinct_noChange hnode hkey fun _ _ hchange => hchange
    obtain ⟨hreference, hfields⟩ := List.forall_mem_cons.mp hget
    rw [Version.resolve, Version.resolve, hreference, Version.ofNode_congr hfields]

section Fields

variable {known : List String} {fields others : List (String × Node)} {key : String}
  (h : Node.Rearranged known OwnVersionChange fields others)
  (hfields : (Node.table fields).DistinctKeys)

include h hfields

private theorem lookup_of_ownVersionChange (hknown : key ∈ known) (hkey : key ≠ "version") :
    others.lookup key = fields.lookup key :=
  h.lookup_eq keepsDistinct_ownVersionChange hfields hknown fun _ _ hchange => hkey hchange.1

private theorem resolve_of_ownVersionChange (hknown : "version" ∈ known)
    (declared : Section Version) :
    Version.resolve declared (others.lookup "version") =
      Version.resolve declared (fields.lookup "version") := by
  have hlookup :
      (others.lookup "version").map (fun node => Version.resolve declared (some node)) =
        (fields.lookup "version").map fun node => Version.resolve declared (some node) :=
    h.lookup keepsDistinct_ownVersionChange hfields hknown fun _ _ hchange hnode =>
      Version.resolve_of_rearranged declared hchange.2 hnode
  generalize others.lookup "version" = version', fields.lookup "version" = version at hlookup
  cases version' <;> cases version <;> simp_all

end Fields

theorem Library.ofNode_of_rearranged (declared : Section Version)
    (h : LibraryRearranged node node') (hnode : node.DistinctKeys) :
    Library.ofNode declared node' = Library.ofNode declared node := by
  cases h with
  | same => rfl
  | @table fields others h =>
    have hfield {key : String} : key ∈ ["module", "group", "name", "version"] →
        key ≠ "version" → others.lookup key = fields.lookup key :=
      lookup_of_ownVersionChange h hnode
    exact Library.ofNode_congr (hfield (by decide) (by decide)) (hfield (by decide) (by decide))
      (hfield (by decide) (by decide)) (resolve_of_ownVersionChange h hnode (by decide) declared)

theorem Plugin.ofNode_of_rearranged (declared : Section Version)
    (h : PluginRearranged node node') (hnode : node.DistinctKeys) :
    Plugin.ofNode declared node' = Plugin.ofNode declared node := by
  cases h with
  | same => rfl
  | table h =>
    exact Plugin.ofNode_congr (lookup_of_ownVersionChange h hnode (by decide) (by decide))
      (resolve_of_ownVersionChange h hnode (by decide) declared)

/-- The section that is read from a part of a document. -/
def readPart {α : Type} (read : Node → α) (part : Node) : Section α :=
  .ofList ((part.table?.getD []).map fun entry => (entry.1, read entry.2))

private theorem readSection_eq {α : Type} (read : Node → α) (document : Node) (name : String) :
    Catalog.readSection read document name =
      ((document.get? name).map (readPart read)).getD .empty := by
  rw [Catalog.readSection, Catalog.sectionOf]
  cases document.get? name <;> rfl

private theorem readPart_of_partChange {α : Type} {read : Node → α} {name : String}
    {part part' : Node}
    (h : PartChange name part part') (hpart : part.DistinctKeys)
    (hread : ∀ ⦃a b⦄, EntryRearranged name a b → a.DistinctKeys → read b = read a) :
    readPart read part' = readPart read part := by
  cases h with
  | leaf => rfl
  | table hentries =>
    have hrelated := hentries.imp_of_distinctKeys (Node.distinctKeys_table.mp hpart).2
      fun _ _ _ => @hread _ _
    rw [readPart, readPart, Node.table?, Node.table?, Option.getD_some, Option.getD_some,
      hrelated.map_eq]

theorem DocumentRearranged.readSection {α : Type} {read : Node → α} {name : String}
    {document document' : Node} (h : DocumentRearranged document document')
    (hkeys : document.DistinctKeys) (hname : name ∈ ["versions", "libraries", "plugins", "bundles"])
    (hread : ∀ ⦃a b⦄, EntryRearranged name a b → a.DistinctKeys → read b = read a) :
    Catalog.readSection read document' name = Catalog.readSection read document name := by
  cases h with
  | same => rfl
  | table h =>
    have hlookup := h.lookup keepsDistinct_partChange hkeys hname
      fun _ _ hpart hdistinct => readPart_of_partChange hpart hdistinct hread
    rw [readSection_eq, readSection_eq, Node.get?, Node.get?, hlookup]

/-- The catalog of a document does not change if parts of the document move, if parts come or go
that are not known, or if the fields of its versions, libraries and plugins, and those of the
versions in them, do so. -/
theorem ofNode_of_documentRearranged {document document' : Node} (hkeys : document.DistinctKeys)
    (h : DocumentRearranged document document') :
    Catalog.ofNode document' = Catalog.ofNode document := by
  have hversions : Catalog.readSection Version.ofNode document' "versions" =
      Catalog.readSection Version.ofNode document "versions" :=
    h.readSection hkeys (by decide) fun _ _ => Version.ofNode_of_rearranged
  have hlibraries (declared : Section Version) :
      Catalog.readSection (Library.ofNode declared) document' "libraries" =
        Catalog.readSection (Library.ofNode declared) document "libraries" :=
    h.readSection hkeys (by decide) fun _ _ => Library.ofNode_of_rearranged declared
  have hplugins (declared : Section Version) :
      Catalog.readSection (Plugin.ofNode declared) document' "plugins" =
        Catalog.readSection (Plugin.ofNode declared) document "plugins" :=
    h.readSection hkeys (by decide) fun _ _ => Plugin.ofNode_of_rearranged declared
  have hbundles : Catalog.readSection Bundle.ofNode document' "bundles" =
      Catalog.readSection Bundle.ofNode document "bundles" :=
    h.readSection hkeys (by decide) fun _ _ hsame _ => congrArg Bundle.ofNode hsame.symm
  -- the versions are the same, so references find what they found before
  rw [Catalog.ofNode, Catalog.ofNode, hversions, hlibraries, hplugins, hbundles]

/-- The versions stand first now, and at every level a field is added that is not known there; in a
declared version that may be a reference. -/
def rearrangedDocument : Node := .table [
  ("metadata", .table [("format", .table [("version", .string "1.1")])]),
  ("versions", .table [
    ("rich", .table [
      ("ref", .string "plain"), ("reject", .array [.literal "1"]), ("prefer", .string "1.9")]),
    ("plain", .string "2")]),
  ("libraries", .table [
    ("core", .table [
      ("module", .string "a:core"),
      ("version", .table [("branch", .boolean true), ("ref", .string "rich")])]),
    ("lost", .table [("module", .string "a:lost"), ("version", .table [("ref", .string "none")])]),
    ("short", .string "a:short:1")]),
  ("plugins", .table [
    ("tool", .table [("id", .string "a.tool"), ("version", .table [("ref", .string "plain")])])])]

theorem EntryRearranged.refl (name : String) (entry : Node) : EntryRearranged name entry entry := by
  rw [EntryRearranged]
  split_ifs
  · exact .same entry
  · exact .same entry
  · exact .same entry
  · rfl

theorem EntryRearranged.partChange {name : String} {entry entry' : Node}
    (h : EntryRearranged name entry entry') (key : String) (others : List (String × Node)) :
    PartChange name (.table ((key, entry) :: others)) (.table ((key, entry') :: others)) :=
  .table (.cons ⟨rfl, h⟩ (List.forall₂_same.mpr fun other _ => ⟨rfl, .refl name other.2⟩))

private theorem documentRearranged_rearrangedDocument :
    DocumentRearranged referringDocument rearrangedDocument := by
  have hrich : VersionRearranged
      (.table [("prefer", .string "1.9"), ("reject", .array [.literal "1"])])
      (.table [("ref", .string "plain"), ("reject", .array [.literal "1"]),
        ("prefer", .string "1.9")]) :=
    .table (.trans (.added (by decide) (by decide) (.string "plain"))
      (.moved (.cons _ (.swap _ _ _))))
  have hversion : OwnVersionChange "version" (.table [("ref", .string "rich")])
      (.table [("branch", .boolean true), ("ref", .string "rich")]) :=
    ⟨rfl, .table (.added (by decide) (by decide) (.boolean true))⟩
  have hcore : LibraryRearranged
      (.table [("version", .table [("ref", .string "rich")]), ("module", .string "a:core")])
      (.table [("module", .string "a:core"),
        ("version", .table [("branch", .boolean true), ("ref", .string "rich")])]) :=
    .table (.trans (.changed hversion) (.moved (.swap _ _ _)))
  have hversions : EntryRearranged "versions" _ _ := hrich
  have hlibraries : EntryRearranged "libraries" _ _ := hcore
  exact .table (.trans (.changed (hlibraries.partChange "core" _)) (.trans (.moved (.swap _ _ _))
    (.trans (.changed (hversions.partChange "rich" _)) (.added (by decide) (by decide) (by simp)))))

theorem rearrangedDocument_is_read_alike :
    referringDocument.DistinctKeys ∧ DocumentRearranged referringDocument rearrangedDocument ∧
    Catalog.ofNode rearrangedDocument = Catalog.ofNode referringDocument :=
  ⟨distinctKeys_referringDocument, documentRearranged_rearrangedDocument,
    ofNode_of_documentRearranged distinctKeys_referringDocument
      documentRearranged_rearrangedDocument⟩

end VersionCatalog
