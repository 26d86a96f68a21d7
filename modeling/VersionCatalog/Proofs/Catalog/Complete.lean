import VersionCatalog.Proofs.Catalog.Entries
import VersionCatalog.Proofs.Toml.Verbatim

namespace VersionCatalog

open Toml (Node)

private theorem entries_readSection {α : Type} {document : Node} {name : String}
    {entries : List (String × Node)} (hkeys : document.DistinctKeys)
    (hsection : document.get? name = some (.table entries)) (read : Node → α) :
    (Catalog.readSection read document name).entries =
      entries.map fun entry => (entry.1, read entry.2) := by
  have hentries : Catalog.sectionOf document name = entries := by
    rw [Catalog.sectionOf, hsection]
    rfl
  have hnodup := Catalog.nodup_sectionOf hkeys name
  rw [Catalog.readSection_of_nodup hnodup, hentries]

/-- No table of a document that has been read has a key twice, on any level. So a section of its
catalog has the keys of the document's section, in the same order, and at each of them the value
that is read from the node there. -/
theorem entries_of_parse? {text : String} {document : Node}
    (h : Toml.parse? text = some document) :
    let c := Catalog.ofNode document
    document.DistinctKeys ∧
    (∀ entries, document.get? "versions" = some (.table entries) →
      c.versions.entries = entries.map fun entry => (entry.1, Version.ofNode entry.2)) ∧
    (∀ entries, document.get? "libraries" = some (.table entries) →
      c.libraries.entries = entries.map fun entry => (entry.1, Library.ofNode c.versions entry.2)) ∧
    (∀ entries, document.get? "plugins" = some (.table entries) →
      c.plugins.entries = entries.map fun entry => (entry.1, Plugin.ofNode c.versions entry.2)) ∧
    (∀ entries, document.get? "bundles" = some (.table entries) →
      c.bundles.entries = entries.map fun entry => (entry.1, Bundle.ofNode entry.2)) := by
  intro c
  have hkeys := Toml.distinctKeys_of_parse? h
  exact ⟨hkeys, fun _ hsection => entries_readSection hkeys hsection _,
    fun _ hsection => entries_readSection hkeys hsection _,
    fun _ hsection => entries_readSection hkeys hsection _,
    fun _ hsection => entries_readSection hkeys hsection _⟩

/-- Headers out of order: a table that a longer header ran through is continued later, and comes
last then. -/
def scatteredText : String :=
  "[libraries.core.version]\nref = \"k\"\n[libraries]\n\"\" = \"a:c\"\n[versions]\n" ++
  "k.reject = [{ a.b = 1, a.c = 2 }, 3]\n[libraries.core]\nmodule = \"a:b\"\n"

def scatteredDocument : Node := .table [
  ("libraries", .table [
    ("", .string "a:c"),
    ("core", .table [("version", .table [("ref", .string "k")]), ("module", .string "a:b")])]),
  ("versions", .table [
    ("k", .table [("reject", .array [
      .table [("a", .table [("b", .literal "1"), ("c", .literal "2")])], .literal "3"])])])]

set_option maxRecDepth 1024 in
private theorem parse?_scatteredText : Toml.parse? scatteredText = some scatteredDocument := by
  unfold Toml.parse? scatteredText
  rw [String.toList_append]
  -- the characters are taken from the literals before anything is read
  generalize htext : (String.toList _ ++ String.toList _) = text
  rw [String.toList_ofList, String.toList_ofList] at htext
  subst htext
  rfl

theorem scatteredText_is_complete :
    Toml.parse? scatteredText = some scatteredDocument ∧ scatteredDocument.DistinctKeys ∧
    (Catalog.ofNode scatteredDocument).versions.entries = [("k", { rejected := ["3"] })] ∧
    (Catalog.ofNode scatteredDocument).libraries.entries =
      [("", { group := "a", name := "c" }),
        ("core", { group := "a", name := "b", version := { rejected := ["3"] } })] := by
  obtain ⟨hkeys, hversions, hlibraries, -, -⟩ := entries_of_parse? parse?_scatteredText
  refine ⟨parse?_scatteredText, hkeys, ?_, ?_⟩
  · exact (hversions _ rfl).trans (by decide)
  · exact (hlibraries _ rfl).trans (by decide)

end VersionCatalog
