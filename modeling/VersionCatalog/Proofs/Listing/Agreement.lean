import VersionCatalog.Listing
import VersionCatalog.Proofs.Kotlin.Declared

namespace VersionCatalog.Listing

open Kotlin

structure Entry where
  name : String
  value : String
  skipped : Bool

def Entry.line (e : Entry) : String :=
  "  " ++ e.name ++ " = " ++ e.value ++ (if e.skipped then " (skipped)" else "")

def entries (c : Catalog) : SectionKind → List Entry
  | .versions => c.versions.entries.map fun entry =>
    ⟨Naming.camelCase entry.1, versionText entry.2, entry.2.isEmpty⟩
  | .libraries => c.libraries.entries.map fun entry =>
    ⟨Naming.camelCase entry.1,
      entry.2.group ++ ":" ++ entry.2.name ++ versionSuffix entry.2.version, entry.2.isEmpty⟩
  | .bundles => c.bundles.entries.map fun entry =>
    ⟨Naming.camelCase entry.1, Text.joinWith ", " entry.2.libraries, entry.2.isEmpty⟩
  | .plugins => c.plugins.entries.map fun entry =>
    ⟨Naming.camelCase entry.1, entry.2.id ++ versionSuffix entry.2.version, entry.2.isEmpty⟩

def header : SectionKind → String
  | .versions => "[versions]"
  | .libraries => "[libraries]"
  | .bundles => "[bundles]"
  | .plugins => "[plugins]"

/-- The lines of a section: the header is there if there is an entry. -/
def linesOf (c : Catalog) (kind : SectionKind) : List String :=
  if (entries c kind).isEmpty then [] else header kind :: (entries c kind).map Entry.line

/-- The catalogs with a single entry of a section, in the order of the section. -/
def singles (c : Catalog) : SectionKind → List Catalog
  | .versions => c.versions.entries.map fun entry => { versions := ⟨[entry]⟩ }
  | .libraries => c.libraries.entries.map fun entry => { libraries := ⟨[entry]⟩ }
  | .bundles => c.bundles.entries.map fun entry => { bundles := ⟨[entry]⟩ }
  | .plugins => c.plugins.entries.map fun entry => { plugins := ⟨[entry]⟩ }

/-- The part of a source that declares values. -/
def classPart (c : Catalog) (options : Options) : String :=
  if (objects c).isEmpty then "" else classText c options

private theorem lines_eq (c : Catalog) :
    lines c = sectionKinds.flatMap (linesOf c) ++
      (if c.isBlank then ["Nothing to generate"] else []) := by
  simp [lines, sectionKinds, sectionLines, linesOf, entries, header, Section.isEmpty,
    Function.comp_def, Entry.line, entryLine]

theorem objects_eq_nil_iff {c : Catalog} : objects c = [] ↔ shownKinds c = [] := by
  simp [objects_eq_map]

theorem shownKinds_eq_nil_iff {c : Catalog} :
    shownKinds c = [] ↔ ∀ kind, declarations c kind = [] := by
  rw [List.eq_nil_iff_forall_not_mem]
  simp [mem_shownKinds]

theorem map_name_declarations (c : Catalog) (kind : SectionKind) :
    (declarations c kind).map (·.name) =
      ((entries c kind).filter (!·.skipped)).map fun e => identifier e.name := by
  cases kind <;>
    simp [declarations, entries, liveEntries, List.filter_map, Function.comp_def, memberName,
      versionDeclaration, libraryDeclaration, bundleDeclaration, pluginDeclaration]

theorem declaredNames_classPart (c : Catalog) (options : Options) (kind : SectionKind) :
    declaredNames (classPart c options) (objectName kind) =
      ((entries c kind).filter (!·.skipped)).map fun e => identifier e.name := by
  rw [← map_name_declarations]
  by_cases hnil : shownKinds c = []
  · have hdeclarations := shownKinds_eq_nil_iff.mp hnil kind
    simp [classPart, objects_eq_nil_iff.mpr hnil, hdeclarations, declaredNames]
  · have hobjects : objects c ≠ [] := fun h => hnil (objects_eq_nil_iff.mp h)
    rw [← declaredNames_classText hnil options]
    simp [classPart, hobjects]

/-- An entry alone is listed as it is among others. -/
theorem entries_singles (c : Catalog) (kind : SectionKind) :
    List.Forall₂ (fun e single => entries single kind = [e]) (entries c kind) (singles c kind) := by
  cases kind <;>
    exact List.forall₂_map_left_iff.mpr (List.forall₂_map_right_iff.mpr
      (List.forall₂_same.mpr fun _ _ => rfl))

private theorem flatMap_declaredNames {es : List Entry} {singles : List Catalog}
    {kind : SectionKind}
    (h : List.Forall₂ (fun e single => entries single kind = [e]) es singles)
    (options : Options) :
    (singles.flatMap fun single => declaredNames (classPart single options) (objectName kind)) =
      (es.filter (!·.skipped)).map fun e => identifier e.name := by
  induction h with
  | nil => rfl
  | @cons e single es singles he _ ih =>
    rw [List.flatMap_cons, ih, declaredNames_classPart, he]
    cases hskipped : e.skipped <;> simp [hskipped]

private theorem forall_kind_iff {p : SectionKind → Prop} :
    (∀ kind, p kind) ↔ p .versions ∧ p .libraries ∧ p .bundles ∧ p .plugins := by
  refine ⟨fun h => ⟨h _, h _, h _, h _⟩, ?_⟩
  rintro ⟨hversions, hlibraries, hbundles, hplugins⟩ kind
  cases kind <;> assumption

theorem isBlank_iff {c : Catalog} : c.isBlank = true ↔ ∀ kind, declarations c kind = [] := by
  have hlive {α : Type} (isEmpty : α → Bool) (s : Section α) :
      s.entries.all (isEmpty ·.2) = true ↔ liveEntries isEmpty s = [] := by
    simp [liveEntries]
  simp only [forall_kind_iff, Catalog.isBlank, Bool.and_eq_true, hlive, declarations,
    List.map_eq_nil_iff]
  constructor
  · rintro ⟨⟨⟨hversions, hlibraries⟩, hplugins⟩, hbundles⟩
    exact ⟨hversions, hlibraries, hbundles, hplugins⟩
  · rintro ⟨hversions, hlibraries, hbundles, hplugins⟩
    exact ⟨⟨⟨hversions, hlibraries⟩, hplugins⟩, hbundles⟩

/-- Every section with content needs an import. -/
theorem imports_eq_empty_iff {c : Catalog} :
    imports c = "" ↔ ∀ kind, declarations c kind = [] := by
  have hneeded (kind : SectionKind) : ∃ i ∈ importables, kind ∈ i.neededBy := by
    cases kind <;> simp [importables]
  have hcontent (kind : SectionKind) : c.hasContent kind = false ↔ declarations c kind = [] := by
    simp [hasContent_eq]
  simp only [imports, unlines_eq_empty_iff, List.map_eq_nil_iff, importedBy,
    List.filter_eq_nil_iff, List.any_eq_true, not_exists, not_and, Bool.not_eq_true, hcontent]
  refine ⟨fun h kind => ?_, fun h i _ kind _ => h kind⟩
  obtain ⟨i, hi, hkind⟩ := hneeded kind
  exact h i hi kind hkind

private theorem objectBlock_eq_none_iff {c : Catalog} (kind : SectionKind) :
    objectBlock (objectName kind) (declarations c kind) (closingLines c kind) = none ↔
      declarations c kind = [] := by
  rw [objectBlock_eq]
  simp

/-- No line of a section is taken for the line of a catalog without content. -/
theorem ne_of_mem_linesOf {c : Catalog} {kind : SectionKind} {line : String}
    (h : line ∈ linesOf c kind) : line ≠ "Nothing to generate" := by
  rintro rfl
  rw [linesOf] at h
  split_ifs at h
  · simp at h
  · rcases List.mem_cons.mp h with heq | hmem
    · cases kind <;> exact absurd heq (by decide)
    · obtain ⟨e, -, heq⟩ := List.mem_map.mp hmem
      have hfirst := congrArg (·.toList.head?) heq
      simp [Entry.line] at hfirst

private theorem getLast?_lines_iff {c : Catalog} :
    (lines c).getLast? = some "Nothing to generate" ↔ c.isBlank = true := by
  rw [lines_eq]
  cases c.isBlank with
  | true => simp
  | false =>
    simp only [Bool.false_eq_true, if_false, List.append_nil, iff_false]
    intro h
    obtain ⟨kind, -, hline⟩ := List.mem_flatMap.mp (List.mem_of_getLast? h)
    exact ne_of_mem_linesOf hline rfl

/-- A listing agrees with the source. A section is listed under its header, one line per entry, if
it has entries. The entries without a mark are the values that the object of the section declares,
in the same order and under the names shown, and marked are those that declare nothing even alone.
A catalog without source is the one that is listed as blank, needs no imports and has no objects. -/
theorem lines_agree_with_source (c : Catalog) (options : Options) :
    lines c = sectionKinds.flatMap (linesOf c) ++
      (if c.isBlank then ["Nothing to generate"] else []) ∧
    source c options =
      (if (objects c).isEmpty then "" else preamble c options) ++ classPart c options ∧
    (∀ kind,
      declaredNames (classPart c options) (objectName kind) =
        ((entries c kind).filter (!·.skipped)).map (fun e => identifier e.name) ∧
      declaredNames (classPart c options) (objectName kind) =
        (singles c kind).flatMap fun single =>
          declaredNames (classPart single options) (objectName kind)) ∧
    (∀ kind, List.Forall₂
      (fun e single => e.skipped = true ↔
        declaredNames (classPart single options) (objectName kind) = [])
      (entries c kind) (singles c kind)) ∧
    (source c options = "" ↔ c.isBlank = true) ∧
    (source c options = "" ↔ imports c = "") ∧
    (source c options = "" ↔ versionsObject c.versions = none ∧ librariesObject c.libraries = none ∧
      bundlesObject c.bundles = none ∧ pluginsObject c.plugins = none) ∧
    (source c options = "" ↔ (lines c).getLast? = some "Nothing to generate") := by
  have hblank : source c options = "" ↔ c.isBlank = true := by
    rw [source_eq_empty_iff, isBlank_iff, shownKinds_eq_nil_iff]
  refine ⟨lines_eq c, ?_, ?_, ?_, hblank, ?_, ?_, ?_⟩
  · rw [source, classPart]
    split_ifs
    · rfl
    · rfl
  · intro kind
    rw [flatMap_declaredNames (entries_singles c kind)]
    exact ⟨declaredNames_classPart c options kind, declaredNames_classPart c options kind⟩
  · intro kind
    refine (entries_singles c kind).imp fun e single he => ?_
    rw [declaredNames_classPart, he]
    cases hskipped : e.skipped <;> simp [hskipped]
  · rw [hblank, isBlank_iff, imports_eq_empty_iff]
  · have hobject (kind : SectionKind) := objectBlock_eq_none_iff (c := c) kind
    rw [hblank, isBlank_iff, forall_kind_iff]
    exact and_congr (hobject .versions).symm (and_congr (hobject .libraries).symm
      (and_congr (hobject .bundles).symm (hobject .plugins).symm))
  · rw [hblank, getLast?_lines_iff]

end VersionCatalog.Listing
