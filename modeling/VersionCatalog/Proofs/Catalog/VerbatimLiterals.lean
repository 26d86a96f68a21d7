import VersionCatalog.Proofs.Catalog.Entries
import VersionCatalog.Proofs.Kotlin.ClassTokens
import VersionCatalog.Proofs.Text.AsciiCase
import VersionCatalog.Proofs.Toml.LoneLiteral

namespace VersionCatalog

open Toml (Node IsLiteralText isBareChar)

private theorem not_isWhiteSpace_of_isBareChar {c : Char} (h : isBareChar c = true) :
    Text.isWhiteSpace c = false := by
  simp only [isBareChar, Bool.or_eq_true, beq_iff_eq] at h
  rcases h with ((((h | rfl) | rfl) | rfl) | rfl) | rfl
  case inl =>
    rw [Text.isAlphanum_iff, Text.isUpper_iff, Text.isLower_iff, Text.isDigit_iff] at h
    simp only [Text.isWhiteSpace, Bool.or_eq_false_iff, Bool.and_eq_false_imp, decide_eq_true_eq,
      decide_eq_false_iff_not, beq_eq_false_iff_ne]
    omega
  all_goals decide

/-- A version that is written as a literal has content. -/
theorem isEmpty_ofRequired {raw : String} (h : IsLiteralText raw.toList) :
    (Version.ofRequired raw).isEmpty = false := by
  obtain ⟨c, rest, hraw, hc⟩ := h.exists_cons
  have hblank : Text.isBlank raw = false := by
    simp [Text.isBlank, hraw, not_isWhiteSpace_of_isBareChar hc]
  simp [Version.isEmpty, Version.ofRequired, hblank]

namespace Kotlin

private theorem infix_flatMap {α β : Type} (f : α → List β) {l : List α} {a : α} (h : a ∈ l) :
    f a <:+: l.flatMap f :=
  List.infix_of_mem_flatten (List.mem_map_of_mem h)

private theorem infix_unlines {lines lines' : List String} (h : lines <:+: lines') :
    (Text.unlines lines).toList <:+: (Text.unlines lines').toList := by
  obtain ⟨before, after, rfl⟩ := h
  refine ⟨(Text.unlines before).toList, (Text.unlines after).toList, ?_⟩
  simp

variable {c : Catalog} {kind : SectionKind} {d : Declaration}

private theorem infix_objectLines (h : d ∈ declarations c kind) :
    indent d.lines <:+: objectLines c kind := by
  have hmember : d.lines <:+: "" :: "@JvmStatic" :: d.lines :=
    ((List.suffix_cons _ _).trans (List.suffix_cons _ _)).isInfix
  have hmembers : d.lines <:+:
      (declarations c kind).flatMap fun d => "" :: "@JvmStatic" :: d.lines :=
    hmember.trans (infix_flatMap (fun d => "" :: "@JvmStatic" :: d.lines) h)
  have hobject {body : List String} (hbody : d.lines <:+: body) :
      indent d.lines <:+: ("object " ++ objectName kind ++ " \x7b") :: indent body ++ ["\x7d"] :=
    (hbody.map indentLine).trans ((List.suffix_cons _ _).isInfix.trans (List.prefix_append _ _).isInfix)
  apply hobject
  split
  · exact hmembers
  · exact hmembers.trans (List.prefix_append _ _).isInfix

/-- The lines of a declaration stand in the source of a catalog as they are, indented by its object
and its class. -/
def Declares (c : Catalog) (options : Options) (d : Declaration) : Prop :=
  (Text.unlines (indent (indent d.lines))).toList <:+: (source c options).toList

private theorem declares_of_mem (h : d ∈ declarations c kind) (options : Options) :
    Declares c options d := by
  have hkind : kind ∈ shownKinds c := mem_shownKinds.mpr (List.ne_nil_of_mem h)
  have hnil : shownKinds c ≠ [] := List.ne_nil_of_mem hkind
  let lines := (shownKinds c).flatMap fun kind => "" :: indent (objectLines c kind)
  have hlines : indent (indent d.lines) <:+: lines :=
    ((infix_objectLines h).map indentLine).trans ((List.suffix_cons _ _).isInfix.trans
      (infix_flatMap (fun kind => "" :: indent (objectLines c kind)) hkind))
  have hsource : source c options = preamble c options ++
      (classHead options ++ "\x7b" ++ ("\n" ++ Text.unlines lines) ++ "\x7d\n") := by
    rw [source, classText_eq hnil, if_neg]
    · rfl
    · simpa [objects_eq_map] using hnil
  have hclass : (Text.unlines lines).toList <:+: (source c options).toList := by
    refine ⟨(preamble c options ++ classHead options ++ "\x7b\n").toList, "\x7d\n".toList, ?_⟩
    rw [hsource]
    simp
  exact (infix_unlines hlines).trans hclass

private theorem escapeChar_of_isBareChar {c : Char} (h : isBareChar c = true ∨ c = ' ') :
    escapeChar c = [c] := by
  have hne {d : Char} (hd : isBareChar d = false) (hblank : ' ' ≠ d) : c ≠ d := by
    rcases h with h | rfl
    · exact Toml.ne_of_isBareChar h hd
    · exact hblank
  rw [escapeChar, if_neg (hne (by decide) (by decide)), if_neg (hne (by decide) (by decide)),
    if_neg (hne (by decide) (by decide)), if_neg (hne (by decide) (by decide)),
    if_neg (hne (by decide) (by decide)), if_neg (hne (by decide) (by decide))]

section Required

variable {raw : String}

/-- No character of a literal has to be escaped. -/
theorem quote_of_isLiteralText (h : IsLiteralText raw.toList) : quote raw = "\"" ++ raw ++ "\"" := by
  have hescape : raw.toList.flatMap escapeChar = raw.toList := by
    rw [List.flatMap_congr fun c hc =>
      escapeChar_of_isBareChar (Toml.isBareChar_or_of_whole h.1 c hc), List.flatMap_singleton']
  rw [← String.toList_inj, toList_quote, quoteChars, hescape]
  simp

/-- The arguments that ask for a text and for nothing else. -/
def requiredArguments (required : String) : List String :=
  ["\"\",", "\"" ++ required ++ "\",", "\"\",", "emptyList<String>(),", "null"]

private theorem versionArguments_ofRequired (h : IsLiteralText raw.toList) :
    versionArguments (.ofRequired raw) = requiredArguments raw := by
  have hempty : quote "" = "\"\"" := by decide
  have hrequired : "\"" ++ raw ++ "\"" ++ "," = "\"" ++ raw ++ "\"," := String.append_assoc
  rw [requiredArguments, ← hrequired, ← quote_of_isLiteralText h]
  simp only [versionArguments, Version.ofRequired, hempty]
  rfl

/-- The version that a library or a plugin asks for by a text alone. -/
def requiredDependency (required : String) : List String :=
  "DefaultMutableVersionConstraint(" ::
    indent ("DefaultImmutableVersionConstraint(" :: indent (requiredArguments required) ++ [")"]) ++
      [")"]

private theorem dependencyVersion_ofRequired (h : IsLiteralText raw.toList) :
    dependencyVersion (.ofRequired raw) = requiredDependency raw := by
  rw [dependencyVersion, versionArguments_ofRequired h, requiredDependency]

/-- Wherever a catalog asks for a version by a text alone, the source has the text between quotes,
with nothing escaped. -/
structure ShowsRequired (c : Catalog) (options : Options) (raw : String) : Prop where
  versions : ∀ key, (key, .ofRequired raw) ∈ c.versions.entries →
    Declares c options ⟨memberName key, "VersionConstraint", "DefaultImmutableVersionConstraint",
      requiredArguments raw⟩
  libraries : ∀ key (l : Library), (key, l) ∈ c.libraries.entries → l.isEmpty = false →
    l.version = .ofRequired raw →
    Declares c options ⟨memberName key, "MinimalExternalModuleDependency",
      "DefaultMinimalDependency",
      ("DefaultModuleIdentifier.newId(" ++ quote l.group ++ ", " ++ quote l.name ++ "),") ::
        requiredDependency raw⟩
  plugins : ∀ key (p : Plugin), (key, p) ∈ c.plugins.entries → p.isEmpty = false →
    p.version = .ofRequired raw →
    Declares c options ⟨memberName key, "PluginDependency", "DefaultPluginDependency",
      (quote p.id ++ ",") :: requiredDependency raw⟩

end Required

section Member

variable {c : Catalog} {key : String}

private theorem mem_liveEntries {α : Type} {isEmpty : α → Bool} {s : Section α} {value : α}
    (hkey : (key, value) ∈ s.entries) (hcontent : isEmpty value = false) :
    (key, value) ∈ liveEntries isEmpty s :=
  List.mem_filter.mpr ⟨hkey, by simp [hcontent]⟩

private theorem versionDeclaration_mem {v : Version} (hkey : (key, v) ∈ c.versions.entries)
    (hcontent : v.isEmpty = false) : versionDeclaration key v ∈ declarations c .versions :=
  List.mem_map.mpr ⟨(key, v), mem_liveEntries hkey hcontent, rfl⟩

private theorem libraryDeclaration_mem {l : Library} (hkey : (key, l) ∈ c.libraries.entries)
    (hcontent : l.isEmpty = false) : libraryDeclaration key l ∈ declarations c .libraries :=
  List.mem_map.mpr ⟨(key, l), mem_liveEntries hkey hcontent, rfl⟩

private theorem pluginDeclaration_mem {p : Plugin} (hkey : (key, p) ∈ c.plugins.entries)
    (hcontent : p.isEmpty = false) : pluginDeclaration key p ∈ declarations c .plugins :=
  List.mem_map.mpr ⟨(key, p), mem_liveEntries hkey hcontent, rfl⟩

end Member

private theorem showsRequired {raw : String} (h : IsLiteralText raw.toList) (c : Catalog)
    (options : Options) : ShowsRequired c options raw := by
  constructor
  case versions =>
    intro key hkey
    have hdeclared := versionDeclaration_mem hkey (isEmpty_ofRequired h)
    rw [versionDeclaration, versionArguments_ofRequired h] at hdeclared
    exact declares_of_mem hdeclared options
  case libraries =>
    intro key l hkey hcontent hversion
    have hdeclared := libraryDeclaration_mem hkey hcontent
    rw [libraryDeclaration, hversion, dependencyVersion_ofRequired h] at hdeclared
    exact declares_of_mem hdeclared options
  case plugins =>
    intro key p hkey hcontent hversion
    have hdeclared := pluginDeclaration_mem hkey hcontent
    rw [pluginDeclaration, hversion, dependencyVersion_ofRequired h] at hdeclared
    exact declares_of_mem hdeclared options

end Kotlin

private theorem mem_versions_of_literal {document : Node} {key raw : String}
    (hkeys : document.DistinctKeys)
    (h : (key, .literal raw) ∈ Catalog.sectionOf document "versions") :
    (key, { required := raw }) ∈ (Catalog.ofNode document).versions.entries := by
  have hentries : (Catalog.ofNode document).versions.entries =
      (Catalog.sectionOf document "versions").map fun entry => (entry.1, .ofNode entry.2) :=
    congrArg Section.entries (Catalog.readSection_of_nodup (Catalog.nodup_sectionOf hkeys _) _)
  rw [hentries]
  exact List.mem_map_of_mem (f := fun entry => (entry.1, Version.ofNode entry.2)) h

/-- A literal that stands anywhere in a document is a piece of its text, and behind `v = ` it is the
one value of another document. A version that is written so asks for these characters and nothing
else. They stand as they are between the quotes of the source, wherever an entry asks for them
alone. -/
theorem literals_are_verbatim {text raw : String} {document : Node}
    (h : Toml.parse? text = some document) (hraw : document.HasLiteral raw) :
    raw.toList <:+: text.toList ∧
    Toml.parse? ("v = " ++ raw) = some (.table [("v", .literal raw)]) ∧
    Version.ofNode (.literal raw) = { required := raw } ∧
    (∀ declared, Version.resolve declared (some (.literal raw)) = { required := raw }) ∧
    (∀ key, (key, .literal raw) ∈ Catalog.sectionOf document "versions" →
      (key, { required := raw }) ∈ (Catalog.ofNode document).versions.entries) ∧
    Kotlin.quote raw = "\"" ++ raw ++ "\"" ∧
    ∀ c options, Kotlin.ShowsRequired c options raw := by
  obtain ⟨hpiece, hliteral⟩ := Toml.taken_of_parse? h raw hraw
  have hkeys := Toml.distinctKeys_of_parse? h
  refine ⟨hpiece, ?_, rfl, fun declared => rfl, fun key => mem_versions_of_literal hkeys,
    Kotlin.quote_of_isLiteralText hliteral, Kotlin.showsRequired hliteral⟩
  have hassigned := Toml.parse?_assigned (show Toml.isBareName "v" = true by decide) hliteral
  have hstart : "v" ++ " = " = "v = " := by decide
  rwa [hstart] at hassigned

/-- A date with a blank before its time, and a number deep inside the value of another key. -/
def datedText : String :=
  "[versions]\nk = 2024-01-02 03:04:05.5\nbuilt = [true, \x7b a.b = 0xF_F \x7d]\n"

def datedDocument : Node := .table [("versions", .table [
  ("k", .literal "2024-01-02 03:04:05.5"),
  ("built", .array [.boolean true, .table [("a", .table [("b", .literal "0xF_F")])]])])]

private theorem parse?_datedText : Toml.parse? datedText = some datedDocument := by
  unfold Toml.parse? datedText
  -- the characters are taken from the literal before anything is read
  generalize htext : String.toList _ = text
  rw [String.toList_ofList] at htext
  subst htext
  rfl

private theorem hasLiteral_date : datedDocument.HasLiteral "2024-01-02 03:04:05.5" :=
  .entry (List.mem_cons_self ..) (.entry (List.mem_cons_self ..) .here)

private theorem hasLiteral_number : datedDocument.HasLiteral "0xF_F" :=
  .entry (List.mem_cons_self ..) (.entry (List.mem_cons_of_mem _ (List.mem_cons_self ..))
    (.item (List.mem_cons_of_mem _ (List.mem_cons_self ..))
      (.entry (List.mem_cons_self ..) (.entry (List.mem_cons_self ..) .here))))

theorem datedText_is_verbatim :
    let options : Kotlin.Options := ⟨"catalog", "Catalog", "1.0", 2024⟩
    Toml.parse? datedText = some datedDocument ∧
    datedDocument.HasLiteral "2024-01-02 03:04:05.5" ∧ datedDocument.HasLiteral "0xF_F" ∧
    Toml.parse? "v = 0xF_F" = some (.table [("v", .literal "0xF_F")]) ∧
    ("k", { required := "2024-01-02 03:04:05.5" }) ∈
      (Catalog.ofNode datedDocument).versions.entries ∧
    Kotlin.Declares (Catalog.ofNode datedDocument) options ⟨"k", "VersionConstraint",
      "DefaultImmutableVersionConstraint",
      ["\"\",", "\"2024-01-02 03:04:05.5\",", "\"\",", "emptyList<String>(),", "null"]⟩ := by
  intro options
  obtain ⟨-, hnumber, -⟩ := literals_are_verbatim parse?_datedText hasLiteral_number
  obtain ⟨-, -, -, -, hentries, -, hshown⟩ := literals_are_verbatim parse?_datedText hasLiteral_date
  have hkey := hentries "k" List.mem_cons_self
  have hname : Kotlin.memberName "k" = "k" := by decide
  have hdeclared := (hshown _ options).versions "k" hkey
  rw [hname] at hdeclared
  exact ⟨parse?_datedText, hasLiteral_date, hasLiteral_number, hnumber, hkey, hdeclared⟩

end VersionCatalog
