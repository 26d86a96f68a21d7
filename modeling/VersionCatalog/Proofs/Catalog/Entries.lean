import VersionCatalog.Catalog.OfNode
import VersionCatalog.Proofs.Toml.Entrywise

namespace VersionCatalog

open Toml (Node)

/-- The key that the node of a version refers to. -/
def Version.reference? (node : Node) : Option String :=
  (node.get? "ref").bind Node.text?

theorem Version.resolve_some (declared : Section Version) (node : Node) :
    Version.resolve declared (some node) =
      match Version.reference? node with
      | some key => (declared.get? key).getD {}
      | none => .ofNode node := rfl

/-- Only the version of a library depends on what is declared. -/
theorem Library.ofNode_table (declared other : Section Version) (fields : List (String × Node)) :
    Library.ofNode declared (.table fields) =
      { Library.ofNode other (.table fields) with
        version := Version.resolve declared (fields.lookup "version") } := by
  simp only [Library.ofNode, Node.get?]
  cases (fields.lookup "module").bind Node.string? <;> rfl

/-- Other fields than those of a library do not matter. -/
theorem Library.ofNode_congr {declared : Section Version} {fields others : List (String × Node)}
    (hmodule : others.lookup "module" = fields.lookup "module")
    (hgroup : others.lookup "group" = fields.lookup "group")
    (hname : others.lookup "name" = fields.lookup "name")
    (hversion : Version.resolve declared (others.lookup "version") =
      Version.resolve declared (fields.lookup "version")) :
    Library.ofNode declared (.table others) = Library.ofNode declared (.table fields) := by
  simp only [Library.ofNode, Node.textAt, Node.get?, hmodule, hgroup, hname, hversion]

theorem Plugin.ofNode_congr {declared : Section Version} {fields others : List (String × Node)}
    (hid : others.lookup "id" = fields.lookup "id")
    (hversion : Version.resolve declared (others.lookup "version") =
      Version.resolve declared (fields.lookup "version")) :
    Plugin.ofNode declared (.table others) = Plugin.ofNode declared (.table fields) := by
  simp only [Plugin.ofNode, Node.textAt, Node.get?, hid, hversion]

namespace Catalog

variable {α : Type} {document other : Node} {name : String}

theorem nodup_sectionOf (h : document.DistinctKeys) (name : String) :
    ((sectionOf document name).map Prod.fst).Nodup := by
  cases hget : document.get? name with
  | none => simp [sectionOf, hget]
  | some part =>
    cases part with
    | table entries =>
      have hpart := h.get? hget
      simpa [sectionOf, hget, Node.table?] using (Node.distinctKeys_table.mp hpart).1
    | _ => simp [sectionOf, hget, Node.table?]

theorem readSection_of_nodup (h : ((sectionOf document name).map Prod.fst).Nodup)
    (read : Node → α) :
    readSection read document name =
      ⟨(sectionOf document name).map fun entry => (entry.1, read entry.2)⟩ := by
  refine Section.ofList_of_nodup ?_
  rwa [List.map_map]

theorem keys_readSection (h : ((sectionOf document name).map Prod.fst).Nodup) (read : Node → α) :
    (readSection read document name).keys = (sectionOf document name).map Prod.fst := by
  rw [readSection_of_nodup h, Section.keys, List.map_map]
  rfl

theorem get?_readSection (h : ((sectionOf document name).map Prod.fst).Nodup) (read : Node → α)
    (key : String) :
    (readSection read document name).get? key =
      ((sectionOf document name).lookup key).map read := by
  rw [readSection_of_nodup h, Section.get?, KeyedList.lookup_map]

/-- Sections are equal if their entries are read as the same, one by one. -/
theorem readSection_congr {read : Node → α}
    (h : Node.EntriesRelated (fun _ a b => read b = read a) (sectionOf document name)
      (sectionOf other name)) : readSection read other name = readSection read document name := by
  rw [readSection, readSection, h.map_eq]

theorem entriesRelated_sectionOf {R : String → Node → Node → Prop} {S : Node → Node → Prop}
    (h : Node.Entrywise R document other)
    (hpart : ∀ part part', R name part part' → Node.Entrywise (fun _ => S) part part') :
    Node.EntriesRelated (fun _ => S) (sectionOf document name) (sectionOf other name) := by
  have hrel := h.get? name
  rw [sectionOf, sectionOf]
  generalize document.get? name = part, other.get? name = part' at hrel ⊢
  cases hrel with
  | none => exact .nil
  | @some part part' hparts =>
    cases hpart part part' hparts with
    | table hentries => exact hentries
    | leaf hleaf =>
      cases part with
      | table entries => cases hleaf
      | _ => exact .nil

end Catalog

end VersionCatalog
