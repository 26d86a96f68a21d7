import VersionCatalog.Catalog.OfNode
import VersionCatalog.Proofs.Kotlin.Mentions
import VersionCatalog.Proofs.Listing.Agreement

namespace VersionCatalog

open Kotlin
open Toml (Node)

/-- The strings of an array, in their order. -/
def stringElements (node : Node) : List String :=
  (node.array?.getD []).filterMap Node.string?

/-- The bundles of a document that name something, with the strings that they name. -/
def namedBundles (document : Node) : List (String × List String) :=
  ((Section.ofList (Catalog.sectionOf document "bundles")).entries.map fun entry =>
    (entry.1, stringElements entry.2)).filter (!·.2.isEmpty)

/-- Keys that differ only in which of the separators stands between two parts. -/
def SeparatedAlike (key key' : String) : Prop :=
  List.Forall₂ (fun c d => c = d ∨ Naming.isSeparator c = true ∧ Naming.isSeparator d = true)
    key.toList key'.toList

private theorem pieces_of_separatedAlike {isBreak : Char → Bool} {cs ds : List Char}
    (h : List.Forall₂ (fun c d => c = d ∨ isBreak c = true ∧ isBreak d = true) cs ds) :
    Text.pieces isBreak cs = Text.pieces isBreak ds := by
  induction h with
  | nil => rfl
  | cons hchar _ ih =>
    rcases hchar with rfl | ⟨hc, hd⟩
    · rw [Text.pieces, Text.pieces, ih]
    · rw [Text.pieces, Text.pieces, if_pos hc, if_pos hd, ih]

theorem SeparatedAlike.camelCase_eq {key key' : String} (h : SeparatedAlike key key') :
    Naming.camelCase key = Naming.camelCase key' := by
  rw [Naming.camelCase, Naming.camelCase, Naming.camelChars, Naming.camelChars,
    pieces_of_separatedAlike h]

/-- The bundles of a catalog from strings, which are named as libraries are. -/
def bundlesNaming (bundles : List (String × List String)) : List (String × Bundle) :=
  bundles.map fun bundle => (bundle.1, { libraries := bundle.2.map Naming.camelCase })

private theorem entries_bundles (document : Node) :
    (Catalog.ofNode document).bundles.entries =
      (Section.ofList (Catalog.sectionOf document "bundles")).entries.map fun entry =>
        (entry.1, Bundle.ofNode entry.2) :=
  Section.entries_ofList_map Bundle.ofNode _

theorem liveEntries_bundles (document : Node) :
    liveEntries Bundle.isEmpty (Catalog.ofNode document).bundles =
      bundlesNaming (namedBundles document) := by
  simp [liveEntries, entries_bundles, namedBundles, bundlesNaming, List.filter_map,
    Function.comp_def, Bundle.isEmpty, Bundle.ofNode, stringElements]

private theorem memberNames_bundlesNaming (bundles : List (String × List String)) :
    ((bundlesNaming bundles).map fun entry => memberName entry.1) =
      bundles.map fun bundle => memberName bundle.1 := by
  simp [bundlesNaming, Function.comp_def]

private theorem statements_bundlesNaming (bundles : List (String × List String)) :
    (bundlesNaming bundles).map bundleStatements = bundles.map fun bundle =>
      bundle.2.map fun element =>
        "Bundles." ++ memberName bundle.1 ++ ".add(Libraries." ++ memberName element ++ ")" := by
  simp [bundlesNaming, bundleStatements, memberName, Function.comp_def]

private theorem identifiers_bundlesNaming (bundles : List (String × List String)) :
    ((bundlesNaming bundles).flatMap fun entry => entry.2.libraries.map identifier) =
      bundles.flatMap fun bundle => bundle.2.map memberName := by
  simp only [bundlesNaming, List.flatMap_map, List.map_map]
  rfl

/-- The part of a source that declares values is the class, if there is one. -/
theorem classPart_cases (c : Catalog) (options : Options) :
    (Listing.classPart c options = "" ∧ liveEntries Bundle.isEmpty c.bundles = []) ∨
      shownKinds c ≠ [] ∧ Listing.classPart c options = classText c options := by
  by_cases hnil : shownKinds c = []
  · have hbundles : SectionKind.bundles ∉ shownKinds c := by simp [hnil]
    exact .inl ⟨by simp [Listing.classPart, objects_eq_map, hnil], liveEntries_eq_nil hbundles⟩
  · exact .inr ⟨hnil, by simp [Listing.classPart, objects_eq_map, hnil]⟩

private theorem initStatements_classPart (c : Catalog) (options : Options) :
    initStatements (Listing.classPart c options) "Bundles" =
      List.intercalate [""] ((liveEntries Bundle.isEmpty c.bundles).map bundleStatements) := by
  rcases classPart_cases c options with ⟨hpart, hbundles⟩ | ⟨hshown, hpart⟩
  · rw [hpart, hbundles]
    decide
  · rw [hpart, initStatements_classText hshown]

private theorem referredNames_classPart (c : Catalog) (options : Options) :
    referredNames (Listing.classPart c options) "Libraries" =
      (liveEntries Bundle.isEmpty c.bundles).flatMap fun entry =>
        entry.2.libraries.map identifier := by
  rcases classPart_cases c options with ⟨hpart, hbundles⟩ | ⟨hshown, hpart⟩
  · rw [hpart, hbundles]
    rfl
  · rw [hpart, referredNames_classText hshown]

private theorem declaredNames_libraries (c : Catalog) (options : Options) :
    declaredNames (Listing.classPart c options) "Libraries" =
      (liveEntries Library.isEmpty c.libraries).map fun entry => memberName entry.1 := by
  have hnames : declaredNames (Listing.classPart c options) "Libraries" = _ :=
    Listing.declaredNames_classPart c options .libraries
  rw [hnames, ← Listing.map_name_declarations, declarations, List.map_map]
  rfl

private theorem declaredNames_bundles (c : Catalog) (options : Options) :
    declaredNames (Listing.classPart c options) "Bundles" =
      (liveEntries Bundle.isEmpty c.bundles).map fun entry => memberName entry.1 := by
  have hnames : declaredNames (Listing.classPart c options) "Bundles" = _ :=
    Listing.declaredNames_classPart c options .bundles
  rw [hnames, ← Listing.map_name_declarations, declarations, List.map_map]
  rfl

theorem source_eq_append_classPart (c : Catalog) (options : Options) :
    source c options =
      (if (objects c).isEmpty then "" else preamble c options) ++ Listing.classPart c options := by
  rw [source, Listing.classPart]
  split_ifs <;> rfl

private theorem memberName_eq {key key' : String}
    (h : Naming.camelCase key = Naming.camelCase key') :
    memberName key = memberName key' := by
  rw [memberName, memberName, h]

/-- The members of bundles are the declared libraries. The block of initialization of the bundles
holds one statement for each string of a bundle and nothing else; it names the bundle as it is
declared, and its member as a library is declared whose key is the same name of a value, for instance
one with other separators. If there is such a library for every string, then the source refers to
declared libraries only. -/
theorem bundle_members_are_libraries (document : Node) (options : Options) :
    let c := Catalog.ofNode document
    let text := Listing.classPart c options
    let bundles := namedBundles document
    let libraries := liveEntries Library.isEmpty c.libraries
    source c options = (if (objects c).isEmpty then "" else preamble c options) ++ text ∧
    declaredNames text "Bundles" = bundles.map (fun bundle => memberName bundle.1) ∧
    initStatements text "Bundles" = List.intercalate [""] (bundles.map fun bundle =>
      bundle.2.map fun element =>
        "Bundles." ++ memberName bundle.1 ++ ".add(Libraries." ++ memberName element ++ ")") ∧
    (declaredNames text "Libraries").length = libraries.length ∧
    (∀ (i : Nat) (key : String) (library : Library) (element : String),
      libraries[i]? = some (key, library) → Naming.camelCase key = Naming.camelCase element →
      (declaredNames text "Libraries")[i]? = some (memberName element)) ∧
    (∀ key element, SeparatedAlike key element →
      Naming.camelCase key = Naming.camelCase element) ∧
    referredNames text "Libraries" = bundles.flatMap (fun bundle => bundle.2.map memberName) ∧
    ((∀ bundle ∈ bundles, ∀ element ∈ bundle.2, ∃ entry ∈ libraries,
        Naming.camelCase entry.1 = Naming.camelCase element) →
      ∀ name ∈ referredNames text "Libraries", name ∈ declaredNames text "Libraries") := by
  intro c text bundles libraries
  have hbundles : liveEntries Bundle.isEmpty c.bundles = bundlesNaming bundles :=
    liveEntries_bundles document
  have hlibraries : declaredNames text "Libraries" = libraries.map fun entry => memberName entry.1 :=
    declaredNames_libraries c options
  have hreferred : referredNames text "Libraries" =
      bundles.flatMap fun bundle => bundle.2.map memberName := by
    rw [referredNames_classPart, hbundles, identifiers_bundlesNaming]
  refine ⟨source_eq_append_classPart c options, ?_, ?_, ?_, ?_, ?_, hreferred, ?_⟩
  · rw [declaredNames_bundles, hbundles, memberNames_bundlesNaming]
  · rw [initStatements_classPart, hbundles, statements_bundlesNaming]
  · rw [hlibraries, List.length_map]
  · intro i key library element hentry hname
    rw [hlibraries, List.getElem?_map, hentry, Option.map_some, memberName_eq hname]
  · exact fun key element h => h.camelCase_eq
  · intro hdeclared name hname
    rw [hreferred, List.mem_flatMap] at hname
    obtain ⟨bundle, hbundle, hname⟩ := hname
    obtain ⟨element, helement, rfl⟩ := List.mem_map.mp hname
    obtain ⟨entry, hentry, hsame⟩ := hdeclared bundle hbundle element helement
    rw [hlibraries, List.mem_map]
    exact ⟨entry, hentry, memberName_eq hsame⟩

/-- Keys that are keywords, begin with digits or have other separators than the bundles name. -/
def keywordDocument : Node := .table [
  ("libraries", .table [
    ("in", .string "g:in"),
    ("2-a", .string "g:a"),
    ("x.y_z", .string "g:x")]),
  ("bundles", .table [
    ("fun", .array [.string "in", .boolean true, .string "2.a"]),
    ("none", .array []),
    ("all", .array [.string "x-y.z", .string "in"])])]

theorem keywordDocument_refers_to_declared :
    (∀ bundle ∈ namedBundles keywordDocument, ∀ element ∈ bundle.2,
      ∃ entry ∈ liveEntries Library.isEmpty (Catalog.ofNode keywordDocument).libraries,
        Naming.camelCase entry.1 = Naming.camelCase element) ∧
    initStatements (Listing.classPart (Catalog.ofNode keywordDocument) ⟨"p", "Libs", "1", 2024⟩)
      "Bundles" = [
        "Bundles.`fun`.add(Libraries.`in`)",
        "Bundles.`fun`.add(Libraries.`2A`)",
        "",
        "Bundles.all.add(Libraries.xYZ)",
        "Bundles.all.add(Libraries.`in`)"] ∧
    ∀ name ∈ referredNames
        (Listing.classPart (Catalog.ofNode keywordDocument) ⟨"p", "Libs", "1", 2024⟩) "Libraries",
      name ∈ declaredNames
        (Listing.classPart (Catalog.ofNode keywordDocument) ⟨"p", "Libs", "1", 2024⟩)
        "Libraries" := by
  have hdeclared : ∀ bundle ∈ namedBundles keywordDocument, ∀ element ∈ bundle.2,
      ∃ entry ∈ liveEntries Library.isEmpty (Catalog.ofNode keywordDocument).libraries,
        Naming.camelCase entry.1 = Naming.camelCase element := by
    decide
  obtain ⟨-, -, hstatements, -, -, -, -, hrefers⟩ :=
    bundle_members_are_libraries keywordDocument ⟨"p", "Libs", "1", 2024⟩
  refine ⟨hdeclared, ?_, hrefers hdeclared⟩
  rw [hstatements]
  decide

end VersionCatalog
