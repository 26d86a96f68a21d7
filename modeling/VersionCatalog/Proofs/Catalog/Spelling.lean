import VersionCatalog.Catalog.OfNode
import VersionCatalog.Proofs.Toml.NestedTable
import VersionCatalog.Proofs.Toml.WholeLines

namespace VersionCatalog

open Toml (Node Entries Draft Statement ReadsStatement ReadsValue ReadsFields
  ReadsKey ReadsPath basicString writeName writeTable headerLine assignmentLine dotted depthLimit)

/-- A library whose version is a reference to a declared one. -/
structure ReferringLibrary where
  group : String
  name : String
  reference : String

namespace ReferringLibrary

def toNode (l : ReferringLibrary) : Node := .table [
  ("group", .string l.group),
  ("name", .string l.name),
  ("version", .table [("ref", .string l.reference)])]

/-- The library with the version that is declared for its reference, if there is one. -/
def resolve (declared : Section Version) (l : ReferringLibrary) : Library where
  group := l.group
  name := l.name
  version := (declared.get? l.reference).getD {}

def fields (bare : Bool) (l : ReferringLibrary) : List (String × List Char) := [
  ("group", basicString l.group),
  ("name", basicString l.name),
  ("version", writeTable bare [("ref", basicString l.reference)])]

end ReferringLibrary

/-- The ways to write down the libraries of a document. -/
inductive Spelling where
  | inline
  | dotted
  | nested

namespace Spelling

def libraryHeader (bare : Bool) (key : String) : List Char :=
  headerLine (Toml.dotted [writeName bare "libraries", basicString key])

/-- The lines of a text at a field, whose name is bare or quoted as those of all fields are. -/
def fieldLine (bare : Bool) (name text : String) : List Char :=
  assignmentLine (writeName bare name) (basicString text)

/-- The header of a library and the lines of its group and name. -/
def headLines (bare : Bool) (entry : String × ReferringLibrary) : List (List Char) := [
  libraryHeader bare entry.1,
  fieldLine bare "group" entry.2.group,
  fieldLine bare "name" entry.2.name]

def dottedLines (bare : Bool) (entry : String × ReferringLibrary) : List (List Char) :=
  headLines bare entry ++ [
    assignmentLine (Toml.dotted [writeName bare "version", writeName bare "ref"])
      (basicString entry.2.reference)]

def nestedLines (bare : Bool) (entry : String × ReferringLibrary) : List (List Char) :=
  headLines bare entry ++ [
    headerLine (Toml.dotted [writeName bare "libraries", basicString entry.1, writeName bare "version"]),
    fieldLine bare "ref" entry.2.reference]

/-- The lines of libraries. The names of sections and fields may be bare; the keys of the libraries
and all texts are basic strings. -/
def lines (bare : Bool) (libraries : List (String × ReferringLibrary)) : Spelling → List (List Char)
  | inline => headerLine (writeName bare "libraries") ::
      libraries.map fun entry => assignmentLine (basicString entry.1) (writeTable bare (entry.2.fields bare))
  | dotted => libraries.flatMap (dottedLines bare)
  | nested => libraries.flatMap (nestedLines bare)

def text (bare : Bool) (libraries : List (String × ReferringLibrary)) (s : Spelling) : String :=
  String.ofList (s.lines bare libraries).flatten

def headStatements (entry : String × ReferringLibrary) : List Statement := [
  .tableHeader ⟨["libraries"], entry.1⟩,
  .assignment ⟨[], "group"⟩ (.string entry.2.group),
  .assignment ⟨[], "name"⟩ (.string entry.2.name)]

def dottedStatements (entry : String × ReferringLibrary) : List Statement :=
  headStatements entry ++ [.assignment ⟨["version"], "ref"⟩ (.string entry.2.reference)]

def nestedStatements (entry : String × ReferringLibrary) : List Statement :=
  headStatements entry ++ [
    .tableHeader ⟨["libraries", entry.1], "version"⟩,
    .assignment ⟨[], "ref"⟩ (.string entry.2.reference)]

/-- The statements that the lines of libraries stand for. -/
def statements (libraries : List (String × ReferringLibrary)) : Spelling → List Statement
  | inline => Toml.sectionStatements
      ("libraries", libraries.map fun entry => (entry.1, entry.2.toNode))
  | dotted => libraries.flatMap dottedStatements
  | nested => libraries.flatMap nestedStatements

end Spelling

section

variable (bare : Bool)

private theorem readsValue_fields (l : ReferringLibrary) :
    ReadsValue depthLimit (writeTable bare (l.fields bare)) l.toNode := by
  have htext (depth : Nat) (text : String) := Toml.readsValue_basicString depth text
  have hversion : ReadsFields 77 [("ref", basicString l.reference)] [("ref", .string l.reference)] :=
    .field (by decide) (htext 77 l.reference) .nil
  have hfields : ReadsFields 78 (l.fields bare) _ :=
    .field (by decide) (htext 78 l.group) (.field (by decide) (htext 78 l.name)
      (.field (by decide) (Toml.readsValue_writeTable bare hversion (by simp) (by simp)) .nil))
  have hkeys : ["group", "name", "version"].Nodup := by decide
  exact Toml.readsValue_writeTable bare hfields (by simp [ReferringLibrary.fields]) hkeys

private theorem readsKey_libraries : ReadsKey (writeName bare "libraries") "libraries" :=
  Toml.readsKey_writeName bare (by decide)

private theorem readsKey_version : ReadsKey (writeName bare "version") "version" :=
  Toml.readsKey_writeName bare (by decide)

private theorem readsStatement_fieldLine {name : String} (h : Toml.isBareName name = true)
    (text : String) :
    ReadsStatement (Spelling.fieldLine bare name text) (.assignment ⟨[], name⟩ (.string text)) :=
  Toml.readsStatement_assignmentLine (Toml.readsKey_writeName bare h).path
    (Toml.readsValue_basicString depthLimit text)

private theorem readsStatements_headLines (entry : String × ReferringLibrary) :
    List.Forall₂ ReadsStatement (Spelling.headLines bare entry) (Spelling.headStatements entry) := by
  have hpath : ReadsPath (dotted [writeName bare "libraries", basicString entry.1])
      ⟨["libraries"], entry.1⟩ :=
    Toml.readsPath_dotted (.cons (readsKey_libraries bare)
      (.cons (Toml.readsKey_basicString entry.1) .nil)) rfl
  exact .cons (Toml.readsStatement_headerLine hpath)
    (.cons (readsStatement_fieldLine bare (by decide) entry.2.group)
      (.cons (readsStatement_fieldLine bare (by decide) entry.2.name) .nil))

private theorem readsStatements_dottedLines (entry : String × ReferringLibrary) :
    List.Forall₂ ReadsStatement (Spelling.dottedLines bare entry)
      (Spelling.dottedStatements entry) := by
  have href : ReadsKey (writeName bare "ref") "ref" := Toml.readsKey_writeName bare (by decide)
  have hpath : ReadsPath (dotted [writeName bare "version", writeName bare "ref"])
      ⟨["version"], "ref"⟩ :=
    Toml.readsPath_dotted (.cons (readsKey_version bare) (.cons href .nil)) rfl
  have hline := Toml.readsStatement_assignmentLine hpath
    (Toml.readsValue_basicString depthLimit entry.2.reference)
  exact List.rel_append (readsStatements_headLines bare entry) (.cons hline .nil)

private theorem readsStatements_nestedLines (entry : String × ReferringLibrary) :
    List.Forall₂ ReadsStatement (Spelling.nestedLines bare entry)
      (Spelling.nestedStatements entry) := by
  have hpath : ReadsPath
      (dotted [writeName bare "libraries", basicString entry.1, writeName bare "version"])
      ⟨["libraries", entry.1], "version"⟩ :=
    Toml.readsPath_dotted (.cons (readsKey_libraries bare)
      (.cons (Toml.readsKey_basicString entry.1) (.cons (readsKey_version bare) .nil))) rfl
  exact List.rel_append (readsStatements_headLines bare entry)
    (.cons (Toml.readsStatement_headerLine hpath)
      (.cons (readsStatement_fieldLine bare (by decide) entry.2.reference) .nil))

/-- The lines of libraries are read as the statements that they stand for. -/
theorem readsStatements_lines (libraries : List (String × ReferringLibrary)) (s : Spelling) :
    List.Forall₂ ReadsStatement (s.lines bare libraries) (s.statements libraries) := by
  have heach {lines : String × ReferringLibrary → List (List Char)}
      {statements : String × ReferringLibrary → List Statement}
      (h : ∀ entry, List.Forall₂ ReadsStatement (lines entry) (statements entry)) :
      List.Forall₂ ReadsStatement (libraries.flatMap lines) (libraries.flatMap statements) := by
    refine List.rel_flatMap (List.forall₂_same.mpr fun _ _ => rfl) ?_
    rintro entry _ rfl
    exact h entry
  cases s with
  | inline =>
    refine .cons (Toml.readsStatement_headerLine (readsKey_libraries bare).path) ?_
    rw [List.map_map, List.map_map, List.forall₂_map_left_iff, List.forall₂_map_right_iff,
      List.forall₂_same]
    intro entry _
    exact Toml.readsStatement_assignmentLine (Toml.readsKey_basicString entry.1).path
      (readsValue_fields bare entry.2)
  | dotted => exact heach (readsStatements_dottedLines bare)
  | nested => exact heach (readsStatements_nestedLines bare)

end

section

variable {root items : Entries} {draft : Draft}

namespace ReferringLibrary

/-- The entries of a library's table after its group and its name. -/
def headEntries (l : ReferringLibrary) : Entries :=
  [("group", .value (.string l.group)), ("name", .value (.string l.name))]

/-- The entries of a library's table with a table for its version. -/
def entries (origin : Toml.Origin) (l : ReferringLibrary) : Entries :=
  l.headEntries ++ [("version", .table origin [("ref", .value (.string l.reference))])]

private theorem toNode_table_entries (origin : Toml.Origin) (l : ReferringLibrary) :
    (Toml.Item.table .header (l.entries origin)).toNode = l.toNode := rfl

end ReferringLibrary

/-- The table of libraries, which a header of a library makes. -/
def librariesPassage (root : Entries) : Toml.Passage :=
  ⟨root, "libraries", .path⟩

private theorem isNew_librariesPassage (hroot : "libraries" ∉ root.map Prod.fst) :
    ∀ passage ∈ [librariesPassage root], passage.IsNew := by
  simpa [Toml.Passage.IsNew, librariesPassage] using hroot

private theorem addAll_headStatements (hroot : "libraries" ∉ root.map Prod.fst)
    (h : draft.EndsWith "libraries" root items) {entry : String × ReferringLibrary}
    (hkey : entry.1 ∉ items.map Prod.fst) (rest : List Statement) :
    Draft.addAll (Spelling.headStatements entry ++ rest) draft =
      Draft.addAll rest
        (.inside [librariesPassage root] items entry.1 entry.2.headEntries) := by
  rw [Spelling.headStatements, List.cons_append, Draft.addAll, Toml.add_tableHeader h hroot hkey]
  rfl

private theorem addsEntry_dotted (hroot : "libraries" ∉ root.map Prod.fst)
    (entry : String × ReferringLibrary) :
    Toml.AddsEntry "libraries" root (Spelling.dottedStatements entry)
      (entry.1, entry.2.toNode) := by
  intro draft items h hkey
  have hclose := Toml.close_inside (isNew_librariesPassage hroot) items entry.1
    (entry.2.entries .dotted)
  refine ⟨_, .table .header (entry.2.entries .dotted), entry.2.toNode_table_entries .dotted,
    .inr hclose, ?_⟩
  intro rest
  rw [Spelling.dottedStatements, List.append_assoc, addAll_headStatements hroot h hkey]
  rfl

/-- A header for the version goes on in the table of the library, which is the last one. -/
theorem addsEntry_nested (hroot : "libraries" ∉ root.map Prod.fst)
    (entry : String × ReferringLibrary) :
    Toml.AddsEntry "libraries" root (Spelling.nestedStatements entry)
      (entry.1, entry.2.toNode) := by
  intro draft items h hkey
  have hlibraries := isNew_librariesPassage hroot
  have hlibrary : ∀ passage ∈ [librariesPassage root, ⟨items, entry.1, .header⟩],
      passage.IsNew := by
    rw [List.forall_mem_cons]
    exact ⟨hlibraries _ (by simp), by simpa [Toml.Passage.IsNew] using hkey⟩
  have hhead := Toml.close_inside hlibraries items entry.1 entry.2.headEntries
  have hversion : "version" ∉ entry.2.headEntries.map Prod.fst := by
    simp [ReferringLibrary.headEntries]
  have hclose := Toml.close_inside hlibrary entry.2.headEntries "version"
    [("ref", .value (.string entry.2.reference))]
  refine ⟨_, .table .header (entry.2.entries .header), entry.2.toNode_table_entries .header,
    .inr hclose, ?_⟩
  intro rest
  have hadd : (Draft.inside [librariesPassage root] items entry.1 entry.2.headEntries).add
      (.tableHeader ⟨["libraries", entry.1], "version"⟩) =
      some (.inside [librariesPassage root, ⟨items, entry.1, .header⟩] entry.2.headEntries
        "version" []) := by
    rw [Draft.add, hhead]
    exact Toml.openTable_behind hlibrary hversion
  rw [Spelling.nestedStatements, List.append_assoc, addAll_headStatements hroot h hkey,
    List.cons_append, Draft.addAll, hadd]
  rfl

/-- A document with the given libraries that is otherwise the table of other entries. -/
structure HoldsLibraries (document : Node) (others libraries : List (String × Node)) : Prop where
  libraries : Catalog.sectionOf document "libraries" = libraries
  others : ∀ name, name ≠ "libraries" → document.get? name = (Node.table others).get? name

private theorem holdsLibraries_last (hroot : "libraries" ∉ root.map Prod.fst) {item : Toml.Item}
    {nodes : List (String × Node)} (hitem : item.toNode = .table nodes) :
    HoldsLibraries (.table (Toml.entryNodes (root ++ [("libraries", item)])))
      (Toml.entryNodes root) nodes := by
  have hkeys : "libraries" ∉ (Toml.entryNodes root).map Prod.fst := by
    simpa [Toml.entryNodes_eq_map] using hroot
  have hnodes : Toml.entryNodes (root ++ [("libraries", item)]) =
      Toml.entryNodes root ++ [("libraries", .table nodes)] := by
    simp [Toml.entryNodes_eq_map, hitem]
  rw [hnodes]
  constructor
  · have hlookup := KeyedList.lookup_eq_none_iff.mpr hkeys
    simp [Catalog.sectionOf, Node.get?, List.lookup_append, hlookup, Node.table?]
  · intro name hname
    simp [Node.get?, List.lookup_append, List.lookup_cons, beq_eq_false_iff_ne.mpr hname]

private theorem holdsLibraries_of_endsWith (hroot : "libraries" ∉ root.map Prod.fst)
    (h : draft.EndsWith "libraries" root items) :
    ∃ closed, draft.close = some closed ∧
      HoldsLibraries (.table (Toml.entryNodes closed)) (Toml.entryNodes root)
        (Toml.entryNodes items) := by
  rcases h with ⟨rfl, hclose⟩ | hclose
  · refine ⟨root, hclose, ?_, fun _ _ => rfl⟩
    have hlookup : (Toml.entryNodes root).lookup "libraries" = none := by
      rw [KeyedList.lookup_eq_none_iff]
      simpa [Toml.entryNodes_eq_map] using hroot
    simp [Catalog.sectionOf, Node.get?, hlookup, Toml.entryNodes]
  · exact ⟨_, hclose, holdsLibraries_last hroot rfl⟩

/-- Behind other tables the statements of libraries add them in their order, in each spelling. -/
theorem addAll_statements {libraries : List (String × ReferringLibrary)}
    (hroot : "libraries" ∉ root.map Prod.fst) (hdraft : draft.close = some root)
    (hkeys : (libraries.map Prod.fst).Nodup) (s : Spelling) :
    ∃ (last : Draft) (closed : Entries), Draft.addAll (s.statements libraries) draft = some last ∧
      last.close = some closed ∧
      HoldsLibraries (.table (Toml.entryNodes closed)) (Toml.entryNodes root)
        (libraries.map fun entry => (entry.1, entry.2.toNode)) := by
  have hkeys' : ((libraries.map fun entry => (entry.1, entry.2.toNode)).map Prod.fst).Nodup := by
    rwa [KeyedList.keys_map]
  have hgroups {group : String × ReferringLibrary → List Statement}
      (hgroup : ∀ entry, Toml.AddsEntry "libraries" root (group entry)
        (entry.1, entry.2.toNode)) :
      ∃ (last : Draft) (closed : Entries), Draft.addAll (libraries.flatMap group) draft = some last ∧
        last.close = some closed ∧
        HoldsLibraries (.table (Toml.entryNodes closed)) (Toml.entryNodes root)
          (libraries.map fun entry => (entry.1, entry.2.toNode)) := by
    have hadds : List.Forall₂ (Toml.AddsEntry "libraries" root) (libraries.map group)
        (libraries.map fun entry => (entry.1, entry.2.toNode)) := by
      rw [List.forall₂_map_left_iff, List.forall₂_map_right_iff, List.forall₂_same]
      intro entry _
      exact hgroup entry
    obtain ⟨last, all, hall, hlast, hadd⟩ :=
      Toml.addAll_entries hadds (.inl ⟨rfl, hdraft⟩) hkeys'
    obtain ⟨closed, hclose, hholds⟩ := holdsLibraries_of_endsWith hroot hlast
    have hnodes : Toml.entryNodes all = libraries.map fun entry => (entry.1, entry.2.toNode) := hall
    rw [hnodes] at hholds
    rw [List.flatMap_def]
    exact ⟨last, closed, hadd, hclose, hholds⟩
  cases s with
  | inline =>
    obtain ⟨last, hclose, hadd⟩ := @Toml.addAll_section draft root
      ("libraries", libraries.map fun entry => (entry.1, entry.2.toNode)) hdraft hroot hkeys' []
    rw [List.append_nil] at hadd
    refine ⟨last, _, hadd, hclose, holdsLibraries_last hroot ?_⟩
    rw [Toml.Item.toNode, Toml.entryNodes_plain]
  | dotted => exact hgroups (addsEntry_dotted hroot)
  | nested => exact hgroups (addsEntry_nested hroot)

end

theorem HoldsLibraries.ofNode {document : Node} {others nodes : List (String × Node)}
    (h : HoldsLibraries document others nodes) (hkeys : (nodes.map Prod.fst).Nodup) :
    Catalog.ofNode document = { Catalog.ofNode (.table others) with
      libraries := ⟨nodes.map fun entry =>
        (entry.1, Library.ofNode (Catalog.ofNode (.table others)).versions entry.2)⟩ } := by
  have hsection (name : String) (hname : name ≠ "libraries") :
      Catalog.sectionOf document name = Catalog.sectionOf (.table others) name := by
    rw [Catalog.sectionOf, Catalog.sectionOf, h.others name hname]
  have hversions := hsection "versions" (by decide)
  have hplugins := hsection "plugins" (by decide)
  have hbundles := hsection "bundles" (by decide)
  have hkeys' (read : Node → Library) :
      ((nodes.map fun entry => (entry.1, read entry.2)).map Prod.fst).Nodup := by
    rwa [KeyedList.keys_map]
  simp only [Catalog.ofNode, Catalog.readSection, hversions, hplugins, hbundles, h.libraries,
    Section.ofList_of_nodup (hkeys' _)]

/-- Libraries that refer to versions may be written in any spelling behind the lines of a valid text
without libraries: the document is valid, and its catalog has the libraries in their order with the
versions that the text declares. -/
theorem map_ofNode_parse?_spelled (bare : Bool) {before : String} {parts : List (String × Node)}
    (hlines : Toml.WholeLines before.toList) (hparts : Toml.parse? before = some (.table parts))
    (hnew : "libraries" ∉ parts.map Prod.fst) {libraries : List (String × ReferringLibrary)}
    (hkeys : (libraries.map Prod.fst).Nodup) (s : Spelling) :
    (Toml.parse? (before ++ s.text bare libraries)).map Catalog.ofNode =
      some { Catalog.ofNode (.table parts) with
        libraries := ⟨libraries.map fun entry =>
          (entry.1, entry.2.resolve (Catalog.ofNode (.table parts)).versions)⟩ } := by
  obtain ⟨statements, hbefore, hfirst⟩ := Option.bind_eq_some_iff.mp hparts
  have hspelled := readsStatements_lines bare libraries s
  have htext : Statement.ofText? (before ++ s.text bare libraries).toList =
      some (statements ++ s.statements libraries) := by
    rw [String.toList_append, Spelling.text, String.toList_ofList]
    exact Statement.ofText?_append hlines hbefore (Toml.head?_flatten hspelled)
      (Toml.ofText?_flatten hspelled)
  obtain ⟨draft, hdraft, hclosed⟩ := Option.bind_eq_some_iff.mp hfirst
  obtain ⟨root, hroot, hnodes⟩ := Option.bind_eq_some_iff.mp hclosed
  have hnodes : Toml.entryNodes root = parts := Node.table.inj (Option.some.inj hnodes)
  have hnew : "libraries" ∉ root.map Prod.fst := by
    rw [← hnodes, Toml.entryNodes_eq_map, KeyedList.keys_map] at hnew
    exact hnew
  obtain ⟨last, closed, hadd, hclose, hholds⟩ := addAll_statements hnew hroot hkeys s
  have hdocument : Toml.ofStatements? (statements ++ s.statements libraries) =
      some (.table (Toml.entryNodes closed)) := by
    simp [Toml.ofStatements?, Toml.addAll_append, hdraft, hadd, hclose]
  rw [hnodes] at hholds
  rw [Toml.parse?, htext]
  show (Toml.ofStatements? _).map _ = _
  rw [hdocument, Option.map_some, hholds.ofNode (by rwa [KeyedList.keys_map]), List.map_map]
  rfl

/-- Versions under an empty key and under one with a dot and a quote in it. -/
def declaredVersions : List (String × String) :=
  [("", "1.0"), ("a.\"b", "\n")]

def declaredText : String :=
  Toml.writeDocument [("versions", declaredVersions.map fun entry => (entry.1, basicString entry.2))]

def declaredNodes : List (String × Node) :=
  [("versions", .table (declaredVersions.map fun entry => (entry.1, .string entry.2)))]

/-- Libraries with awkward keys and texts; the last one refers to a version that is not declared. -/
def awkwardLibraries : List (String × ReferringLibrary) := [
  ("x.y", ⟨"org \"é\"", "\\", ""⟩),
  ("", ⟨"", "\t", "a.\"b"⟩),
  ("\"]", ⟨"g", "n", "c"⟩)]

/-- The catalog of the versions and the libraries. -/
def awkwardReferring : Catalog where
  versions := ⟨[("", .ofRequired "1.0"), ("a.\"b", .ofRequired "\n")]⟩
  libraries := ⟨[
    ("x.y", { group := "org \"é\"", name := "\\", version := .ofRequired "1.0" }),
    ("", { group := "", name := "\t", version := .ofRequired "\n" }),
    ("\"]", { group := "g", name := "n" })]⟩

theorem awkwardLibraries_are_spelled_alike :
    (Toml.WholeLines declaredText.toList ∧
      Toml.parse? declaredText = some (.table declaredNodes) ∧
      "libraries" ∉ declaredNodes.map Prod.fst ∧ (awkwardLibraries.map Prod.fst).Nodup) ∧
    (Toml.parse? (declaredText ++ Spelling.inline.text true awkwardLibraries)).map Catalog.ofNode =
      some awkwardReferring ∧
    (Toml.parse? (declaredText ++ Spelling.dotted.text true awkwardLibraries)).map Catalog.ofNode =
      some awkwardReferring ∧
    (Toml.parse? (declaredText ++ Spelling.nested.text true awkwardLibraries)).map Catalog.ofNode =
      some awkwardReferring := by
  have hlines : Toml.WholeLines declaredText.toList := by decide
  have hfields : Toml.ReadsEntries (declaredVersions.map fun entry => (entry.1, basicString entry.2))
      (declaredVersions.map fun entry => (entry.1, .string entry.2)) :=
    .cons ⟨rfl, Toml.readsValue_basicString _ "1.0"⟩
      (.cons ⟨rfl, Toml.readsValue_basicString _ "\n"⟩ .nil)
  have hparts : Toml.parse? declaredText = some (.table declaredNodes) :=
    Toml.parse?_writeDocument (.part (by decide) hfields .nil) (by decide) (by decide)
  have hnew : "libraries" ∉ declaredNodes.map Prod.fst := by decide
  have hkeys : (awkwardLibraries.map Prod.fst).Nodup := by decide
  have hcatalog : { Catalog.ofNode (.table declaredNodes) with
      libraries := ⟨awkwardLibraries.map fun entry => (entry.1, entry.2.resolve
        (Catalog.ofNode (.table declaredNodes)).versions)⟩ } = awkwardReferring := by
    decide
  have hspelled := map_ofNode_parse?_spelled true hlines hparts hnew hkeys
  rw [hcatalog] at hspelled
  exact ⟨⟨hlines, hparts, hnew, hkeys⟩, hspelled .inline, hspelled .dotted, hspelled .nested⟩

end VersionCatalog
