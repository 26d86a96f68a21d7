import VersionCatalog.Proofs.Catalog.BundleMembers
import VersionCatalog.Proofs.Kotlin.ValidName

namespace VersionCatalog

open Kotlin

/-- The name of the class that a text declares, as it is written: what follows the first `class`. -/
def declaredClass? (text : String) : Option String :=
  match read (.code []) text.toList with
  | some (tokens, _) =>
    ((tokens.dropWhile (· ≠ wordToken "class"))[1]?).map fun token => String.ofList token.spelling
  | none => none

/-- The keys of a section's entries with content. -/
def liveKeys (c : Catalog) : SectionKind → List String
  | .versions => (liveEntries Version.isEmpty c.versions).map (·.1)
  | .libraries => (liveEntries Library.isEmpty c.libraries).map (·.1)
  | .bundles => (liveEntries Bundle.isEmpty c.bundles).map (·.1)
  | .plugins => (liveEntries Plugin.isEmpty c.plugins).map (·.1)

private theorem declaredClass?_classText {c : Catalog} (h : shownKinds c ≠ []) (options : Options) :
    declaredClass? (classText c options) = some (identifier options.typeName) := by
  have hread : read (.code []) (classText c options).toList = _ := reads_classText h options
  rw [declaredClass?, hread]
  simp [headTokens, identifier]

private theorem declaredClass?_classPart (c : Catalog) (options : Options) :
    declaredClass? (Listing.classPart c options) =
      if (objects c).isEmpty then none else some (identifier options.typeName) := by
  rw [Listing.classPart]
  split_ifs with hobjects
  · rfl
  · refine declaredClass?_classText (fun hnil => hobjects ?_) options
    rw [Listing.objects_eq_nil_iff.mpr hnil]
    rfl

theorem declaredNames_eq (c : Catalog) (options : Options) (kind : SectionKind) :
    declaredNames (Listing.classPart c options) (objectName kind) =
      (liveKeys c kind).map memberName := by
  rw [Listing.declaredNames_classPart, ← Listing.map_name_declarations]
  cases kind <;>
    simp [declarations, liveKeys, versionDeclaration, libraryDeclaration, bundleDeclaration,
      pluginDeclaration]

/-- An identifier is a valid name just if its text can be named. A source declares the identifier of
the type's name as its class and those of the names of its keys as values, so its names are valid
just if those texts can be named. -/
theorem declared_names_are_valid_iff (c : Catalog) (options : Options) :
    let text := Listing.classPart c options
    source c options = (if (objects c).isEmpty then "" else preamble c options) ++ text ∧
    declaredClass? text =
      (if (objects c).isEmpty then none else some (identifier options.typeName)) ∧
    (∀ kind, declaredNames text (objectName kind) = (liveKeys c kind).map memberName) ∧
    (∀ name : String, IsValidName (identifier name).toList ↔ IsNameable name.toList) ∧
    ((∀ kind, ∀ name ∈ declaredNames text (objectName kind), IsValidName name.toList) ↔
      ∀ kind, ∀ key ∈ liveKeys c kind, IsNameable (Naming.camelCase key).toList) := by
  have hvalid (name : String) :
      IsValidName (identifier name).toList ↔ IsNameable name.toList := by
    rw [toList_identifier, isValidName_identifierChars_iff]
  refine ⟨source_eq_append_classPart c options, declaredClass?_classPart c options,
    declaredNames_eq c options, hvalid, forall_congr' fun kind => ?_⟩
  rw [declaredNames_eq, List.forall_mem_map]
  exact forall₂_congr fun key _ => hvalid (Naming.camelCase key)

/-- Underscores alone, nothing at all, a line break, a digit of another script, a number that is no
digit: none of these makes a valid name. A key that is a separator makes no name at all. -/
theorem underscore_makes_no_valid_name :
    identifier "_" = "_" ∧ ¬ IsValidName (identifier "_").toList ∧
    memberName "-" = "\x60\x60" ∧ ¬ IsValidName (memberName "-").toList ∧
    ∀ name ∈ ["a\nb", "\u0663x", "x\u00b2"], ¬ IsValidName (identifier name).toList := by
  have hunderscore : identifierChars ['_'] = ['_'] := by decide
  have hempty : Naming.camelCase "-" = "" := by decide
  have hbackquotes : identifierChars [] = ['\x60', '\x60'] := by decide
  refine ⟨congrArg String.ofList hunderscore, ?_, ?_, ?_, ?_⟩
  · rw [toList_identifier, isValidName_identifierChars_iff, String.toList_ofList]
    rintro ⟨-, -, -, hbare⟩
    obtain ⟨-, -, c, hc, hne⟩ := hbare (by decide)
    exact hne (List.mem_singleton.mp hc)
  · rw [memberName, hempty]
    exact congrArg String.ofList hbackquotes
  · rw [memberName, hempty, toList_identifier, isValidName_identifierChars_iff]
    exact fun hname => hname.1 rfl
  · simp only [List.forall_mem_cons, toList_identifier, isValidName_identifierChars_iff]
    refine ⟨?_, ?_, ?_, by simp⟩
    · rw [String.toList_ofList]
      exact fun hname => hname.2.1 (by decide)
    · rw [String.toList_ofList]
      rintro ⟨-, -, -, hbare⟩
      exact absurd (hbare (by decide)).2.1 (by decide)
    · rw [String.toList_ofList]
      rintro ⟨-, -, -, hbare⟩
      exact absurd ((hbare (by decide)).1 '\u00b2' (by decide)) (by decide +kernel)

end VersionCatalog
