import VersionCatalog.Proofs.Catalog.Entries

namespace VersionCatalog

open Toml (Node)

/-- An entry, and the entry in which what is written for its version is replaced: by the node of the
version that it refers to, if that is no reference itself, or by nothing if there is no such
version. -/
inductive Inlined (versions : List (String × Node)) : Node → Node → Prop
  | unchanged (entry : Node) : Inlined versions entry entry
  | declared {fields : List (String × Node)} {version node : Node} {key : String}
    (hversion : fields.lookup "version" = some version)
    (hreference : Version.reference? version = some key)
    (hnode : versions.lookup key = some node) (hplain : Version.reference? node = none) :
    Inlined versions (.table fields) (.table (KeyedList.put "version" node fields))
  | undeclared {fields : List (String × Node)} {version : Node} {key : String}
    (hversion : fields.lookup "version" = some version)
    (hreference : Version.reference? version = some key)
    (hnode : versions.lookup key = none) :
    Inlined versions (.table fields) (.table (fields.filter (·.1 ≠ "version")))

/-- How the parts of a document change if references among its libraries and plugins are replaced. -/
def PartInlined (versions : List (String × Node)) (name : String) : Node → Node → Prop :=
  if name = "libraries" ∨ name = "plugins" then Node.Entrywise fun _ => Inlined versions
  else fun part part' => part' = part

/-- A document, and one in which references to its versions are replaced, in any number of its
libraries and plugins. -/
def ReferencesInlined (document : Node) : Node → Prop :=
  Node.Entrywise (PartInlined (Catalog.sectionOf document "versions")) document

variable {versions : List (String × Node)} {declared : Section Version} {entry entry' : Node}

/-- A replaced version is resolved to what the reference stood for, and the other fields stay. -/
theorem Inlined.cases_fields (h : Inlined versions entry entry')
    (hdeclared : ∀ key, declared.get? key = (versions.lookup key).map Version.ofNode) :
    entry' = entry ∨ ∃ fields fields', entry = .table fields ∧ entry' = .table fields' ∧
      (∀ key ≠ "version", fields'.lookup key = fields.lookup key) ∧
      Version.resolve declared (fields'.lookup "version") =
        Version.resolve declared (fields.lookup "version") := by
  cases h with
  | unchanged => exact .inl rfl
  | @declared fields version node key hversion hreference hnode hplain =>
    refine .inr ⟨fields, _, rfl, rfl, fun other hother => ?_, ?_⟩
    · rw [KeyedList.lookup_put, if_neg hother]
    · -- the node is read here as it was read when the version was declared
      rw [KeyedList.lookup_put, if_pos rfl, hversion, Version.resolve_some, Version.resolve_some,
        hplain, hreference]
      simp [hdeclared, hnode]
  | @undeclared fields version key hversion hreference hnode =>
    refine .inr ⟨fields, _, rfl, rfl, fun other hother => ?_, ?_⟩
    · rw [KeyedList.lookup_filter_ne, if_neg hother]
    · rw [KeyedList.lookup_filter_ne, if_pos rfl, hversion, Version.resolve_some, hreference]
      simp [hdeclared, hnode, Version.resolve]

theorem Library.ofNode_of_inlined (h : Inlined versions entry entry')
    (hdeclared : ∀ key, declared.get? key = (versions.lookup key).map Version.ofNode) :
    Library.ofNode declared entry' = Library.ofNode declared entry := by
  obtain rfl | ⟨fields, fields', rfl, rfl, hfields, hversion⟩ := h.cases_fields hdeclared
  · rfl
  · exact Library.ofNode_congr (hfields "module" (by decide)) (hfields "group" (by decide))
      (hfields "name" (by decide)) hversion

theorem Plugin.ofNode_of_inlined (h : Inlined versions entry entry')
    (hdeclared : ∀ key, declared.get? key = (versions.lookup key).map Version.ofNode) :
    Plugin.ofNode declared entry' = Plugin.ofNode declared entry := by
  obtain rfl | ⟨fields, fields', rfl, rfl, hfields, hversion⟩ := h.cases_fields hdeclared
  · rfl
  · exact Plugin.ofNode_congr (hfields "id" (by decide)) hversion

/-- The parts of the document other than its libraries and plugins stay as they are. -/
theorem ReferencesInlined.sectionOf {document document' : Node} {name : String}
    (h : ReferencesInlined document document') (hname : ¬(name = "libraries" ∨ name = "plugins")) :
    Catalog.sectionOf document' name = Catalog.sectionOf document name := by
  have hget := h.get? name
  rw [PartInlined, if_neg hname] at hget
  rw [Catalog.sectionOf, Catalog.sectionOf]
  generalize document.get? name = part, document'.get? name = part' at hget ⊢
  cases hget with
  | none => rfl
  | some hpart => rw [hpart]

theorem ReferencesInlined.entries {document document' : Node} {name : String}
    (h : ReferencesInlined document document') (hname : name = "libraries" ∨ name = "plugins") :
    Node.EntriesRelated (fun _ => Inlined (Catalog.sectionOf document "versions"))
      (Catalog.sectionOf document name) (Catalog.sectionOf document' name) := by
  refine Catalog.entriesRelated_sectionOf h fun part part' hpart => ?_
  rwa [PartInlined, if_pos hname] at hpart

/-- Wherever references to versions are replaced by what they refer to, the catalog of the document
stays the same. -/
theorem ofNode_of_referencesInlined {document document' : Node} (hkeys : document.DistinctKeys)
    (h : ReferencesInlined document document') :
    Catalog.ofNode document' = Catalog.ofNode document := by
  -- the versions are not touched, so references that are left find what they found before
  have hversions : Catalog.readSection Version.ofNode document' "versions" =
      Catalog.readSection Version.ofNode document "versions" := by
    rw [Catalog.readSection, Catalog.readSection, h.sectionOf (by decide)]
  have hbundles : Catalog.readSection Bundle.ofNode document' "bundles" =
      Catalog.readSection Bundle.ofNode document "bundles" := by
    rw [Catalog.readSection, Catalog.readSection, h.sectionOf (by decide)]
  have hdeclared := Catalog.get?_readSection (Catalog.nodup_sectionOf hkeys "versions")
    Version.ofNode
  have hlibraries := Catalog.readSection_congr ((h.entries (.inl rfl)).imp
    fun _ _ hentry => ⟨hentry.1, Library.ofNode_of_inlined hentry.2 hdeclared⟩)
  have hplugins := Catalog.readSection_congr ((h.entries (.inr rfl)).imp
    fun _ _ hentry => ⟨hentry.1, Plugin.ofNode_of_inlined hentry.2 hdeclared⟩)
  rw [Catalog.ofNode, Catalog.ofNode, hversions, hlibraries, hplugins, hbundles]

/-- References to a version that is a table, to one that is a text, and to one that is missing. -/
def referringDocument : Node := .table [
  ("libraries", .table [
    ("core", .table [("version", .table [("ref", .string "rich")]), ("module", .string "a:core")]),
    ("lost", .table [("module", .string "a:lost"), ("version", .table [("ref", .string "none")])]),
    ("short", .string "a:short:1")]),
  ("versions", .table [
    ("rich", .table [("prefer", .string "1.9"), ("reject", .array [.literal "1"])]),
    ("plain", .string "2")]),
  ("plugins", .table [
    ("tool", .table [("id", .string "a.tool"), ("version", .table [("ref", .string "plain")])])])]

def inlinedDocument : Node := .table [
  ("libraries", .table [
    ("core", .table [
      ("version", .table [("prefer", .string "1.9"), ("reject", .array [.literal "1"])]),
      ("module", .string "a:core")]),
    ("lost", .table [("module", .string "a:lost")]),
    ("short", .string "a:short:1")]),
  ("versions", .table [
    ("rich", .table [("prefer", .string "1.9"), ("reject", .array [.literal "1"])]),
    ("plain", .string "2")]),
  ("plugins", .table [("tool", .table [("id", .string "a.tool"), ("version", .string "2")])])]

theorem distinctKeys_referringDocument : referringDocument.DistinctKeys := by
  simp [referringDocument]

theorem referringDocument_is_inlined :
    referringDocument.DistinctKeys ∧ ReferencesInlined referringDocument inlinedDocument ∧
    Catalog.ofNode inlinedDocument = Catalog.ofNode referringDocument := by
  have hinlined : ReferencesInlined referringDocument inlinedDocument :=
    .table (.cons ⟨rfl, .table (.cons ⟨rfl, .declared rfl rfl rfl rfl⟩
        (.cons ⟨rfl, .undeclared rfl rfl rfl⟩ (.cons ⟨rfl, .unchanged _⟩ .nil)))⟩
      (.cons ⟨rfl, rfl⟩
        (.cons ⟨rfl, .table (.cons ⟨rfl, .declared rfl rfl rfl rfl⟩ .nil)⟩ .nil)))
  exact ⟨distinctKeys_referringDocument, hinlined,
    ofNode_of_referencesInlined distinctKeys_referringDocument hinlined⟩

end VersionCatalog
