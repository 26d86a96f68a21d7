import Mathlib.Data.List.Nodup
import Mathlib.Data.String.Basic
import VersionCatalog.Proofs.Catalog.BundleMembers
import VersionCatalog.Proofs.Kotlin.Vocabulary

namespace VersionCatalog

open Kotlin
open Toml (Node)

/-- The name of a type without the package before it. -/
def Kotlin.Importable.simpleName (i : Importable) : String :=
  String.ofList ((Text.pieces (· == '.') i.name.toList).getLastD [])

/-- Whether a text has the word among its tokens: not in a string literal, not between backquotes
and not as a part of a longer word. -/
def HasWord (text word : String) : Prop :=
  ∃ tokens, Reads text.toList tokens ∧ wordToken word ∈ tokens

private theorem map_simpleName_importables :
    importables.map (fun i => (i.simpleName, i.neededBy)) = [
      ("ExternalModuleDependencyBundle", [.bundles]),
      ("MinimalExternalModuleDependency", [.libraries]),
      ("VersionConstraint", [.versions]),
      ("DefaultModuleIdentifier", [.libraries]),
      ("DefaultImmutableVersionConstraint", [.versions, .libraries, .plugins]),
      ("DefaultMinimalDependency", [.libraries]),
      ("DefaultMutableVersionConstraint", [.libraries, .plugins]),
      ("DefaultPluginDependency", [.plugins]),
      ("DefaultExternalModuleDependencyBundle", [.bundles]),
      ("PluginDependency", [.plugins])] := by
  simp only [importables, List.map_cons, List.map_nil, Importable.simpleName]
  repeat rw [String.toList_ofList]
  rfl

/-- A type that some sections need: their objects speak of it, and no other word of objects and no
value has its name. -/
structure IsTypeOf (kinds : List SectionKind) (name : String) : Prop where
  spoken : ∀ kind, name ∈ spokenTypes kind ↔ kind ∈ kinds
  other : name ∉ otherWords
  capital : name.toList.head?.any Char.isUpper = true

private theorem isTypeOf_simpleName {i : Importable} (h : i ∈ importables) :
    IsTypeOf i.neededBy i.simpleName := by
  have htable := List.mem_map_of_mem (f := fun i => (i.simpleName, i.neededBy)) h
  simp only [map_simpleName_importables, List.mem_cons, List.not_mem_nil, or_false,
    Prod.mk.injEq] at htable
  rcases htable with h | h | h | h | h | h | h | h | h | h <;> obtain ⟨hname, hneeded⟩ := h <;>
    rw [hname, hneeded] <;>
    exact {
      spoken := fun kind => by cases kind <;> simp [spokenTypes]
      other := by simp [otherWords]
      capital := by rw [String.toList_ofList]; decide }

private theorem pairwise_importables :
    (importables.map ("import " ++ ·.name)).Pairwise (· < ·) := by
  rw [← List.isChain_iff_pairwise]
  simp only [importables, List.map_cons, List.map_nil, List.isChain_cons_cons,
    String.lt_iff_toList_lt, String.toList_append]
  repeat rw [String.toList_ofList]
  decide

private theorem import_mem_iff {c : Catalog} {i : Importable} (h : i ∈ importables) :
    "import " ++ i.name ∈ (importedBy c).map ("import " ++ ·.name) ↔
      ∃ kind ∈ i.neededBy, kind ∈ shownKinds c := by
  have hdistinct : (importables.map ("import " ++ ·.name)).Nodup :=
    pairwise_importables.imp fun hlt => ne_of_lt hlt
  have hshown : i ∈ importedBy c ↔ ∃ kind ∈ i.neededBy, kind ∈ shownKinds c := by
    simp [importedBy, h, hasContent_eq, mem_shownKinds]
  rw [← hshown, List.mem_map]
  refine ⟨?_, fun hi => ⟨i, hi, rfl⟩⟩
  rintro ⟨i', hi', hline⟩
  have hsame := List.inj_on_of_nodup_map hdistinct (List.mem_of_mem_filter hi') h hline
  exact hsame ▸ hi'

private theorem hasWord_iff {text word : String} {tokens : List Token}
    (h : Reads text.toList tokens) :
    HasWord text word ↔ wordToken word ∈ tokens := by
  refine ⟨?_, fun hmem => ⟨tokens, h, hmem⟩⟩
  rintro ⟨tokens', hread, hmem⟩
  rwa [h.unique hread]

private theorem exists_hasWord_iff {c : Catalog} {word : String} :
    (∃ fragment ∈ objects c, HasWord fragment word) ↔
      ∃ kind ∈ shownKinds c, wordToken word ∈ unlineTokens (objectTokens c kind) := by
  simp only [objects_eq_map, List.mem_map, exists_exists_and_eq_and]
  refine exists_congr fun kind => and_congr_right fun _ => ?_
  exact hasWord_iff (readsLines_object c kind).indent.unlines

private theorem hasMemberNames_ofNode (document : Node) :
    HasMemberNames (Catalog.ofNode document) := by
  intro entry hentry library hlibrary
  rw [liveEntries_bundles] at hentry
  obtain ⟨bundle, -, rfl⟩ := List.mem_map.mp hentry
  obtain ⟨element, -, rfl⟩ := List.mem_map.mp hlibrary
  exact ⟨element, rfl⟩

private theorem pieces_imports (c : Catalog) :
    Text.pieces (· == '\n') (imports c).toList =
      ((importedBy c).map ("import " ++ ·.name)).map String.toList ++ [[]] := by
  apply Text.pieces_unlines
  intro line hline
  obtain ⟨i, hi, rfl⟩ := List.mem_map.mp hline
  exact (isLine_import (List.mem_of_mem_filter hi)).2

/-- The imports of a catalog are lines in ascending order, and of the types that can be imported
they name those that stand as words in the objects of the catalog. -/
theorem imports_are_the_spoken_types (document : Node) :
    let c := Catalog.ofNode document
    ∃ lines : List String,
      Text.pieces (· == '\n') (imports c).toList = lines.map String.toList ++ [[]] ∧
      lines.Pairwise (· < ·) ∧
      (∀ line ∈ lines, ∃ i ∈ importables, line = "import " ++ i.name) ∧
      ∀ i ∈ importables, "import " ++ i.name ∈ lines ↔
        ∃ fragment ∈ objects c, HasWord fragment i.simpleName := by
  intro c
  refine ⟨(importedBy c).map ("import " ++ ·.name), pieces_imports c, ?_, ?_, ?_⟩
  · exact pairwise_importables.sublist (List.filter_sublist.map _)
  · intro line hline
    obtain ⟨i, hi, rfl⟩ := List.mem_map.mp hline
    exact ⟨i, List.mem_of_mem_filter hi, rfl⟩
  · intro i hi
    obtain ⟨hspoken, hother, hcapital⟩ := isTypeOf_simpleName hi
    rw [import_mem_iff hi, exists_hasWord_iff]
    refine exists_congr fun kind => ?_
    rw [and_comm]
    refine and_congr_right fun hshown => ?_
    rw [wordToken_mem_objectTokens_iff (hasMemberNames_ofNode document)
      (mem_shownKinds.mp hshown) hcapital hother, hspoken]

/-- A library and a bundle with the names of types. -/
def namesakeDocument : Node := .table [
  ("libraries", .table [("VersionConstraint", .string "g:PluginDependency")]),
  ("bundles", .table [("PluginDependency", .array [.string "VersionConstraint"])])]

theorem namesakes_are_not_imported :
    let c := Catalog.ofNode namesakeDocument
    (¬ ∃ fragment ∈ objects c, HasWord fragment "VersionConstraint") ∧
    (¬ ∃ fragment ∈ objects c, HasWord fragment "PluginDependency") ∧
    ∃ fragment ∈ objects c, HasWord fragment "DefaultMinimalDependency" := by
  intro c
  obtain ⟨lines, htext, -, -, hspoken⟩ := imports_are_the_spoken_types namesakeDocument
  have hlines : lines = (importedBy c).map ("import " ++ ·.name) := by
    rw [pieces_imports, List.append_cancel_right_eq] at htext
    exact (List.map_injective_iff.mpr (fun _ _ => String.toList_injective) htext).symm
  have hkinds : shownKinds c = [.libraries, .bundles] := by decide
  have hnamed (name : String) (kinds : List SectionKind)
      (h : (name, kinds) ∈ importables.map fun i => (i.simpleName, i.neededBy)) :
      (∃ fragment ∈ objects c, HasWord fragment name) ↔ ∃ kind ∈ kinds, kind ∈ shownKinds c := by
    obtain ⟨i, hi, heq⟩ := List.mem_map.mp h
    obtain ⟨rfl, rfl⟩ := Prod.mk.inj heq
    rw [← hspoken i hi, hlines, import_mem_iff hi]
  rw [hnamed "VersionConstraint" [.versions] (by simp [map_simpleName_importables]),
    hnamed "PluginDependency" [.plugins] (by simp [map_simpleName_importables]),
    hnamed "DefaultMinimalDependency" [.libraries] (by simp [map_simpleName_importables]), hkinds]
  decide

end VersionCatalog
