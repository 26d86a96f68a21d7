import VersionCatalog.Proofs.Kotlin.Line

namespace VersionCatalog.Kotlin

def wordToken (word : String) : Token :=
  .word word.toList

/-- The token of the value that is declared for a catalog key. -/
def memberToken (key : String) : Token :=
  identifierToken (Naming.camelChars key.toList)

def libraryToken (library : String) : Token :=
  identifierToken library.toList

theorem memberName_eq_spelling (key : String) :
    memberName key = String.ofList (memberToken key).spelling := by
  simp [memberName, memberToken, identifier]

theorem identifier_eq_spelling (library : String) :
    identifier library = String.ofList (libraryToken library).spelling := by
  simp [libraryToken, identifier]

/-- A declaration by its tokens. -/
structure DeclarationTokens where
  name : Token
  type : Token
  call : Token
  arguments : List TokenLine
  deriving DecidableEq, Repr

def DeclarationTokens.lines (d : DeclarationTokens) : List TokenLine :=
  let start := [wordToken "val", d.name, .sign ':', d.type, .sign '=', d.call, .sign '(']
  if d.arguments.isEmpty then [start ++ [.sign ')']] else start :: d.arguments ++ [[.sign ')']]

def listTokens : List String → List Token
  | [] => [wordToken "emptyList", .sign '<', wordToken "String", .sign '>', .sign '(', .sign ')']
  | first :: others =>
    wordToken "listOf" :: .sign '(' :: .text first.toList ::
      (others.flatMap fun text => [.sign ',', .text text.toList]) ++ [.sign ')']

def versionTokens (v : Version) : List TokenLine := [
  [.text v.preferred.toList, .sign ','],
  [.text v.required.toList, .sign ','],
  [.text v.strict.toList, .sign ','],
  listTokens v.rejected ++ [.sign ','],
  [wordToken "null"]]

/-- The version that a library or plugin is made with. -/
def dependencyTokens (v : Version) : List TokenLine :=
  [wordToken "DefaultMutableVersionConstraint", .sign '('] ::
    ([wordToken "DefaultImmutableVersionConstraint", .sign '('] :: versionTokens v ++
      [[.sign ')']]) ++ [[.sign ')']]

def libraryTokens (l : Library) : List TokenLine :=
  [wordToken "DefaultModuleIdentifier", .sign '.', wordToken "newId", .sign '(',
    .text l.group.toList, .sign ',', .text l.name.toList, .sign ')', .sign ','] ::
    dependencyTokens l.version

def pluginTokens (p : Plugin) : List TokenLine :=
  [.text p.id.toList, .sign ','] :: dependencyTokens p.version

def versionDeclarationTokens (name : Token) (v : Version) : DeclarationTokens where
  name := name
  type := wordToken "VersionConstraint"
  call := wordToken "DefaultImmutableVersionConstraint"
  arguments := versionTokens v

def libraryDeclarationTokens (name : Token) (l : Library) : DeclarationTokens where
  name := name
  type := wordToken "MinimalExternalModuleDependency"
  call := wordToken "DefaultMinimalDependency"
  arguments := libraryTokens l

def pluginDeclarationTokens (name : Token) (p : Plugin) : DeclarationTokens where
  name := name
  type := wordToken "PluginDependency"
  call := wordToken "DefaultPluginDependency"
  arguments := pluginTokens p

def bundleDeclarationTokens (name : Token) : DeclarationTokens where
  name := name
  type := wordToken "ExternalModuleDependencyBundle"
  call := wordToken "DefaultExternalModuleDependencyBundle"
  arguments := []

/-- What holds of the lines of a version and of the lines around them holds of all lines of the
version that a library or plugin is made with. -/
theorem forall_mem_dependencyTokens {P : TokenLine → Prop} {v : Version}
    (hmutable : P [wordToken "DefaultMutableVersionConstraint", .sign '('])
    (himmutable : P [wordToken "DefaultImmutableVersionConstraint", .sign '('])
    (hversion : ∀ line ∈ versionTokens v, P line) (hclose : P [.sign ')']) :
    ∀ line ∈ dependencyTokens v, P line := by
  simp only [dependencyTokens, List.cons_append, List.forall_mem_cons, List.forall_mem_append]
  exact ⟨hmutable, himmutable, ⟨hversion, hclose, by simp⟩, hclose, by simp⟩

theorem DeclarationTokens.forall_mem_lines {P : TokenLine → Prop} {d : DeclarationTokens}
    (hwhole : P [wordToken "val", d.name, .sign ':', d.type, .sign '=', d.call, .sign '(',
      .sign ')'])
    (hstart : P [wordToken "val", d.name, .sign ':', d.type, .sign '=', d.call, .sign '('])
    (harguments : ∀ line ∈ d.arguments, P line) (hclose : P [.sign ')']) :
    ∀ line ∈ d.lines, P line := by
  rw [lines]
  split_ifs
  · exact List.forall_mem_singleton.mpr hwhole
  · simp only [List.cons_append, List.forall_mem_cons, List.forall_mem_append]
    exact ⟨hstart, harguments, hclose, by simp⟩

def statementTokens (bundle library : Token) : TokenLine :=
  [wordToken "Bundles", .sign '.', bundle, .sign '.', wordToken "add", .sign '(',
    wordToken "Libraries", .sign '.', library, .sign ')']

def bundleTokens (name : Token) (b : Bundle) : List TokenLine :=
  b.libraries.map fun library => statementTokens name (libraryToken library)

def bundleBlockTokens (bundles : List (String × Bundle)) : List TokenLine :=
  [wordToken "init", .sign '{'] ::
    List.intercalate [[]] (bundles.map fun entry => bundleTokens (memberToken entry.1) entry.2) ++
    [[.sign '}']]

def objectName : SectionKind → String
  | .versions => "Versions"
  | .libraries => "Libraries"
  | .bundles => "Bundles"
  | .plugins => "Plugins"

def declarations (c : Catalog) : SectionKind → List Declaration
  | .versions =>
    (liveEntries Version.isEmpty c.versions).map fun entry => versionDeclaration entry.1 entry.2
  | .libraries =>
    (liveEntries Library.isEmpty c.libraries).map fun entry => libraryDeclaration entry.1 entry.2
  | .bundles =>
    (liveEntries Bundle.isEmpty c.bundles).map fun entry => bundleDeclaration entry.1 entry.2
  | .plugins =>
    (liveEntries Plugin.isEmpty c.plugins).map fun entry => pluginDeclaration entry.1 entry.2

/-- The lines behind the declarations of a section's object. -/
def closingLines (c : Catalog) : SectionKind → List String
  | .bundles => bundleBlock (liveEntries Bundle.isEmpty c.bundles)
  | _ => []

def declarationTokens (c : Catalog) : SectionKind → List DeclarationTokens
  | .versions => (liveEntries Version.isEmpty c.versions).map fun entry =>
    versionDeclarationTokens (memberToken entry.1) entry.2
  | .libraries => (liveEntries Library.isEmpty c.libraries).map fun entry =>
    libraryDeclarationTokens (memberToken entry.1) entry.2
  | .bundles => (liveEntries Bundle.isEmpty c.bundles).map fun entry =>
    bundleDeclarationTokens (memberToken entry.1)
  | .plugins => (liveEntries Plugin.isEmpty c.plugins).map fun entry =>
    pluginDeclarationTokens (memberToken entry.1) entry.2

def closingTokens (c : Catalog) : SectionKind → List TokenLine
  | .bundles => [] :: bundleBlockTokens (liveEntries Bundle.isEmpty c.bundles)
  | _ => []

/-- The members of an object, each after an empty line and its annotation. -/
def memberTokens (ds : List DeclarationTokens) : List TokenLine :=
  ds.flatMap fun d => [] :: [.sign '@', wordToken "JvmStatic"] :: d.lines

def memberCode (d : DeclarationTokens) : List Token :=
  unlineTokens ([] :: [.sign '@', wordToken "JvmStatic"] :: d.lines)

theorem unlineTokens_memberTokens (ds : List DeclarationTokens) :
    unlineTokens (memberTokens ds) = ds.flatMap memberCode :=
  unlineTokens_flatMap ds _

def objectTokens (c : Catalog) (kind : SectionKind) : List TokenLine :=
  [wordToken "object", wordToken (objectName kind), .sign '{'] ::
    (memberTokens (declarationTokens c kind) ++ closingTokens c kind) ++ [[.sign '}']]

theorem objectName_inj {kind kind' : SectionKind} (h : objectName kind = objectName kind') :
    kind = kind' := by
  cases kind <;> cases kind' <;> simp [objectName] at h ⊢

/-- The kinds of sections in the order of their objects. -/
def sectionKinds : List SectionKind :=
  [.versions, .libraries, .bundles, .plugins]

/-- The objects of a class come from one rule for the four sections. -/
theorem objects_eq (c : Catalog) :
    objects c =
      sectionKinds.filterMap fun kind =>
        objectBlock (objectName kind) (declarations c kind) (closingLines c kind) := by
  simp only [objects, sectionKinds, List.filterMap_cons, List.filterMap_nil, id]
  rfl

/-- The kinds of sections that have an object. -/
def shownKinds (c : Catalog) : List SectionKind :=
  sectionKinds.filter fun kind => !(declarations c kind).isEmpty

/-- The lines of a section's object, where it stands in no class. -/
def objectLines (c : Catalog) (kind : SectionKind) : List String :=
  let members := (declarations c kind).flatMap fun d => "" :: "@JvmStatic" :: d.lines
  let body := if (closingLines c kind).isEmpty then members else members ++ "" :: closingLines c kind
  ("object " ++ objectName kind ++ " \x7b") :: indent body ++ ["\x7d"]

theorem objectBlock_eq (c : Catalog) (kind : SectionKind) :
    objectBlock (objectName kind) (declarations c kind) (closingLines c kind) =
      if (declarations c kind).isEmpty then none
      else some (Text.unlines (indent (objectLines c kind))) := rfl

theorem mem_shownKinds {c : Catalog} {kind : SectionKind} :
    kind ∈ shownKinds c ↔ declarations c kind ≠ [] := by
  have hall : kind ∈ sectionKinds := by cases kind <;> decide
  simp [shownKinds, hall]

theorem hasContent_eq (c : Catalog) (kind : SectionKind) :
    c.hasContent kind = !(declarations c kind).isEmpty := by
  rw [Bool.eq_iff_iff]
  cases kind <;> simp [Catalog.hasContent, declarations, liveEntries]

theorem objects_eq_map (c : Catalog) :
    objects c = (shownKinds c).map fun kind => Text.unlines (indent (objectLines c kind)) := by
  rw [objects_eq, shownKinds]
  simp only [objectBlock_eq]
  induction sectionKinds with
  | nil => rfl
  | cons kind kinds ih =>
    rw [List.filterMap_cons, List.filter_cons, ih]
    cases (declarations c kind).isEmpty <;> rfl

theorem unlines_eq_empty_iff {lines : List String} : Text.unlines lines = "" ↔ lines = [] := by
  rw [← String.toList_inj, Text.toList_unlines]
  cases lines <;> simp

private theorem licenseHeader_ne_empty (year : Int) : licenseHeader year ≠ "" := by
  intro h
  exact absurd (unlines_eq_empty_iff.mp h) (List.cons_ne_nil _ _)

/-- The source is empty for the catalogs without content, and for no other. -/
theorem source_eq_empty_iff {c : Catalog} {options : Options} :
    source c options = "" ↔ shownKinds c = [] := by
  by_cases hnil : shownKinds c = []
  · simp [source, objects_eq_map, hnil]
  · simp [source, objects_eq_map, hnil, preamble, licenseHeader_ne_empty]

/-- What stands on the line of a class before its brace. -/
def classHead (options : Options) : String :=
  "class " ++ identifier options.typeName ++ " private constructor() "

def classBody (c : Catalog) : String :=
  "\n" ++ Text.unlines ((shownKinds c).flatMap fun kind => "" :: indent (objectLines c kind))

private theorem joinWith_unlines {groups : List (List String)} (h : groups ≠ []) :
    "\n" ++ Text.joinWith "\n" (groups.map Text.unlines) =
      Text.unlines (groups.flatMap ("" :: ·)) := by
  apply String.toList_inj.mp
  induction groups with
  | nil => exact absurd rfl h
  | cons group others ih =>
    cases others with
    | nil => simp [List.intercalate]
    | cons next others =>
      have hrest := ih (by simp)
      simp only [String.toList_append, Text.toList_joinWith, List.intercalate, List.map_cons,
        List.intersperse_cons_cons, List.flatten_cons, Text.toList_unlines, List.flatMap_cons,
        List.flatMap_append] at hrest ⊢
      rw [← hrest]
      simp

/-- The class is its head, and then its body between braces. -/
theorem classText_eq {c : Catalog} (h : shownKinds c ≠ []) (options : Options) :
    classText c options = classHead options ++ "\x7b" ++ classBody c ++ "\x7d\n" := by
  have hne : (shownKinds c).map (fun kind => indent (objectLines c kind)) ≠ [] := by simpa using h
  have hjoin := joinWith_unlines hne
  simp only [List.map_map, List.flatMap_map] at hjoin
  simp only [classText, classHead, classBody, objects_eq_map]
  rw [← hjoin]
  apply String.toList_inj.mp
  simp [Function.comp_def]

def headTokens (options : Options) : List Token :=
  [wordToken "class", identifierToken options.typeName.toList, wordToken "private",
    wordToken "constructor", .sign '(', .sign ')']

def bodyTokens (c : Catalog) : List Token :=
  .sign '\n' :: unlineTokens ((shownKinds c).flatMap fun kind => [] :: objectTokens c kind)

end VersionCatalog.Kotlin
