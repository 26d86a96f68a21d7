import VersionCatalog.Proofs.Kotlin.ClassReading
import VersionCatalog.Proofs.Text.SelfDelimiting

namespace VersionCatalog.Kotlin

open Text (SelfDelimiting)

/-- The entries of the four sections that are not empty, each under the name of the value that is
declared for it; a bundle by the names of its libraries' values. -/
structure Content where
  versions : List (String × Version)
  libraries : List (String × Library)
  bundles : List (String × List String)
  plugins : List (String × Plugin)
  deriving DecidableEq

def content (c : Catalog) : Content where
  versions := (liveEntries Version.isEmpty c.versions).map fun entry =>
    (memberName entry.1, entry.2)
  libraries := (liveEntries Library.isEmpty c.libraries).map fun entry =>
    (memberName entry.1, entry.2)
  bundles := (liveEntries Bundle.isEmpty c.bundles).map fun entry =>
    (memberName entry.1, entry.2.libraries.map identifier)
  plugins := (liveEntries Plugin.isEmpty c.plugins).map fun entry =>
    (memberName entry.1, entry.2)

theorem wordToken_inj {a b : String} : wordToken a = wordToken b ↔ a = b := by
  simp [wordToken, String.toList_inj]

private theorem selfDelimiting_item :
    SelfDelimiting fun text : String => [Token.sign ',', .text text.toList] := by
  intro a b r s h
  simpa [String.toList_inj] using h

private theorem selfDelimiting_listTokens : SelfDelimiting listTokens := by
  intro a b r s h
  have hitem (text : String) (t u : List Token) :
      Token.sign ')' :: u ≠ [.sign ',', .text text.toList] ++ t := by simp
  cases a with
  | nil =>
    cases b with
    | nil => simpa [listTokens] using h
    | cons second others => simp [listTokens, wordToken_inj] at h
  | cons first others =>
    cases b with
    | nil => simp [listTokens, wordToken_inj] at h
    | cons second others' =>
      simp only [listTokens, List.cons_append, List.append_assoc, List.nil_append, List.cons.injEq,
        Token.text.injEq, String.toList_inj, true_and] at h
      obtain ⟨rfl, hitems⟩ := h
      obtain ⟨rfl, hrest⟩ := selfDelimiting_item.flatMap (fun text t => hitem text t r)
        (fun text t => hitem text t s) hitems
      exact ⟨rfl, (List.cons.inj hrest).2⟩

private theorem selfDelimiting_versionTokens :
    SelfDelimiting fun v => unlineTokens (versionTokens v) := by
  intro v w r s h
  simp only [versionTokens, unlineTokens_cons, unlineTokens_nil, List.cons_append, List.append_assoc,
    List.nil_append, List.cons.injEq, Token.text.injEq, String.toList_inj, true_and] at h
  obtain ⟨hpreferred, hrequired, hstrict, hlist⟩ := h
  obtain ⟨hrejected, hrest⟩ := selfDelimiting_listTokens hlist
  refine ⟨?_, by simpa using hrest⟩
  cases v
  cases w
  simp_all

private theorem selfDelimiting_dependencyTokens :
    SelfDelimiting fun v => unlineTokens (dependencyTokens v) := by
  intro v w r s h
  simp only [dependencyTokens, unlineTokens_cons, unlineTokens_append, unlineTokens_nil,
    List.cons_append, List.append_assoc, List.nil_append, List.cons.injEq, true_and] at h
  obtain ⟨rfl, hrest⟩ := selfDelimiting_versionTokens h
  exact ⟨rfl, by simpa using hrest⟩

private theorem memberCode_of_arguments (name type call : Token) {arguments : List TokenLine}
    (h : arguments ≠ []) :
    memberCode ⟨name, type, call, arguments⟩ =
      [.sign '\n', .sign '@', wordToken "JvmStatic", .sign '\n', wordToken "val", name, .sign ':',
        type, .sign '=', call, .sign '(', .sign '\n'] ++
        (unlineTokens arguments ++ [.sign ')', .sign '\n']) := by
  simp [memberCode, DeclarationTokens.lines, h]

/-- A declaration shows its name and what its arguments are made from. -/
theorem selfDelimiting_member {α : Type} {arguments : α → List TokenLine} (type call : Token)
    (hne : ∀ a, arguments a ≠ []) (h : SelfDelimiting fun a => unlineTokens (arguments a)) :
    SelfDelimiting fun p : Token × α => memberCode ⟨p.1, type, call, arguments p.2⟩ := by
  rintro ⟨name, a⟩ ⟨name', b⟩ r s heq
  simp only [memberCode_of_arguments _ _ _ (hne _), List.cons_append, List.append_assoc, List.nil_append,
    List.cons.injEq, true_and] at heq
  obtain ⟨rfl, harguments⟩ := heq
  obtain ⟨rfl, hrest⟩ := h harguments
  exact ⟨rfl, by simpa using hrest⟩

private theorem selfDelimiting_libraryTokens :
    SelfDelimiting fun l => unlineTokens (libraryTokens l) := by
  rintro ⟨group, name, v⟩ ⟨group', name', w⟩ r s h
  simp only [libraryTokens, unlineTokens_cons, List.cons_append, List.nil_append, List.cons.injEq,
    Token.text.injEq, String.toList_inj, true_and] at h
  obtain ⟨rfl, rfl, hversion⟩ := h
  obtain ⟨rfl, hrest⟩ := selfDelimiting_dependencyTokens hversion
  exact ⟨rfl, hrest⟩

private theorem selfDelimiting_pluginTokens :
    SelfDelimiting fun p => unlineTokens (pluginTokens p) := by
  rintro ⟨id, v⟩ ⟨id', w⟩ r s h
  simp only [pluginTokens, unlineTokens_cons, List.cons_append, List.nil_append, List.cons.injEq,
    Token.text.injEq, String.toList_inj, true_and] at h
  obtain ⟨rfl, hversion⟩ := h
  obtain ⟨rfl, hrest⟩ := selfDelimiting_dependencyTokens hversion
  exact ⟨rfl, hrest⟩

private theorem selfDelimiting_versionMember :
    SelfDelimiting fun p : Token × Version => memberCode (versionDeclarationTokens p.1 p.2) :=
  selfDelimiting_member _ _ (by simp [versionTokens]) selfDelimiting_versionTokens

private theorem selfDelimiting_libraryMember :
    SelfDelimiting fun p : Token × Library => memberCode (libraryDeclarationTokens p.1 p.2) :=
  selfDelimiting_member _ _ (by simp [libraryTokens]) selfDelimiting_libraryTokens

private theorem selfDelimiting_pluginMember :
    SelfDelimiting fun p : Token × Plugin => memberCode (pluginDeclarationTokens p.1 p.2) :=
  selfDelimiting_member _ _ (by simp [pluginTokens]) selfDelimiting_pluginTokens

private theorem selfDelimiting_bundleMember :
    SelfDelimiting fun name => memberCode (bundleDeclarationTokens name) := by
  intro name name' r s h
  simpa [memberCode, bundleDeclarationTokens, DeclarationTokens.lines] using h

/-- Behind the members of an object comes no other member: either the object ends, or there is an
empty line before something that has no annotation. -/
theorem ne_memberCode (d : DeclarationTokens) {c : Char} (hc : c ≠ '\n') (r t : List Token) :
    .sign c :: r ≠ memberCode d ++ t := by
  simp [memberCode, hc]

private theorem init_ne_memberCode (d : DeclarationTokens) (r t : List Token) :
    .sign '\n' :: wordToken "init" :: r ≠ memberCode d ++ t := by
  simp [memberCode, wordToken]

private theorem selfDelimiting_statement (bundle : Token) :
    SelfDelimiting fun library => statementTokens bundle library ++ [.sign '\n'] := by
  intro library library' r s h
  simpa [statementTokens] using h

private theorem ne_statement (bundle library : Token) (c : Char) (r t : List Token) :
    .sign c :: r ≠ (statementTokens bundle library ++ [.sign '\n']) ++ t := by
  simp [statementTokens, wordToken]

def groupTokens (group : Token × List Token) : List TokenLine :=
  group.2.map (statementTokens group.1)

private theorem unlineTokens_groupTokens (group : Token × List Token) :
    unlineTokens (groupTokens group) =
      group.2.flatMap fun library => statementTokens group.1 library ++ [.sign '\n'] := by
  simp [unlineTokens, groupTokens, List.flatMap_map]

/-- The block that fills the bundles shows their libraries, once the bundles are known by their
names. -/
theorem groups_cancel {l m : List (Token × List Token)} {r s : List Token}
    (hnames : l.map Prod.fst = m.map Prod.fst)
    (h : unlineTokens (List.intercalate [[]] (l.map groupTokens)) ++ .sign '}' :: r =
      unlineTokens (List.intercalate [[]] (m.map groupTokens)) ++ .sign '}' :: s) :
    l = m ∧ r = s := by
  induction l generalizing m with
  | nil =>
    obtain rfl : m = [] := by simpa using hnames.symm
    simpa using h
  | cons group l ih =>
    cases m with
    | nil => simp at hnames
    | cons group' m =>
      obtain ⟨name, libraries⟩ := group
      obtain ⟨name', libraries'⟩ := group'
      simp only [List.map_cons, List.cons.injEq] at hnames
      obtain ⟨rfl, hnames⟩ := hnames
      -- the statements of one bundle end at an empty line or at the brace of the block
      have hcancel {c d : Char} {t u : List Token} :=
        (selfDelimiting_statement name).flatMap (l := libraries) (m := libraries')
          (ne_statement name · c t ·) (ne_statement name · d u ·)
      cases l with
      | nil =>
        obtain rfl : m = [] := by simpa using hnames.symm
        simp only [List.map_cons, List.map_nil, List.intercalate_singleton,
          unlineTokens_groupTokens] at h
        obtain ⟨rfl, hrest⟩ := hcancel h
        exact ⟨rfl, (List.cons.inj hrest).2⟩
      | cons next l =>
        cases m with
        | nil => simp at hnames
        | cons next' m =>
          simp only [List.map_cons, List.intercalate_cons_cons, unlineTokens_append,
            unlineTokens_cons, List.nil_append, List.append_assoc, List.cons_append,
            unlineTokens_groupTokens] at h
          obtain ⟨rfl, hrest⟩ := hcancel h
          simp only [List.cons.injEq, true_and] at hrest
          obtain ⟨hl, hend⟩ := ih (m := next' :: m) hnames
            (by simpa [unlineTokens_groupTokens] using hrest)
          exact ⟨by rw [hl], hend⟩

def named {α : Type} (entries : List (String × α)) : List (Token × α) :=
  entries.map fun entry => (memberToken entry.1, entry.2)

/-- Bundles by the tokens of their names and of their libraries. -/
def groups (bundles : List (String × Bundle)) : List (Token × List Token) :=
  bundles.map fun entry => (memberToken entry.1, entry.2.libraries.map libraryToken)

/-- Members up to the end of their object show the entries that they declare. -/
theorem members_cancel {α : Type} {make : Token → α → DeclarationTokens}
    (hmake : SelfDelimiting fun p : Token × α => memberCode (make p.1 p.2))
    {l m : List (String × α)} {r s : List Token}
    (h : (l.map fun entry => make (memberToken entry.1) entry.2).flatMap memberCode ++
        .sign '}' :: r =
      (m.map fun entry => make (memberToken entry.1) entry.2).flatMap memberCode ++
        .sign '}' :: s) : named l = named m ∧ r = s := by
  have hend {d : DeclarationTokens} {t u : List Token} :
      Token.sign '}' :: u ≠ memberCode d ++ t := ne_memberCode d (by decide) u t
  obtain ⟨hentries, hrest⟩ := hmake.flatMap (l := named l) (m := named m) (fun _ _ => hend)
    (fun _ _ => hend) (by simpa [named, List.flatMap_map] using h)
  exact ⟨hentries, (List.cons.inj hrest).2⟩

/-- Two catalogs with the same tokens in a section. -/
def SameSection (c c' : Catalog) : SectionKind → Prop
  | .versions => named (liveEntries Version.isEmpty c.versions) =
    named (liveEntries Version.isEmpty c'.versions)
  | .libraries => named (liveEntries Library.isEmpty c.libraries) =
    named (liveEntries Library.isEmpty c'.libraries)
  | .bundles => groups (liveEntries Bundle.isEmpty c.bundles) =
    groups (liveEntries Bundle.isEmpty c'.bundles)
  | .plugins => named (liveEntries Plugin.isEmpty c.plugins) =
    named (liveEntries Plugin.isEmpty c'.plugins)

private theorem bundleBlockTokens_eq (bundles : List (String × Bundle)) :
    unlineTokens (bundleBlockTokens bundles) =
      [wordToken "init", .sign '{', .sign '\n'] ++
        (unlineTokens (List.intercalate [[]] ((groups bundles).map groupTokens)) ++
          [.sign '}', .sign '\n']) := by
  have hgroups : (bundles.map fun entry => bundleTokens (memberToken entry.1) entry.2) =
      (groups bundles).map groupTokens := by
    simp [groups, groupTokens, bundleTokens]
  simp [bundleBlockTokens, hgroups]

private theorem bundleMembers_eq (c : Catalog) :
    (declarationTokens c .bundles).flatMap memberCode =
      ((groups (liveEntries Bundle.isEmpty c.bundles)).map Prod.fst).flatMap
        fun name => memberCode (bundleDeclarationTokens name) := by
  simp [groups, declarationTokens, List.flatMap_map]

/-- An object shows of which section it is and what the section tells. -/
theorem object_cancel {c c' : Catalog} {kind kind' : SectionKind} {r s : List Token}
    (h : unlineTokens (objectTokens c kind) ++ r = unlineTokens (objectTokens c' kind') ++ s) :
    kind = kind' ∧ SameSection c c' kind ∧ r = s := by
  simp only [objectTokens, unlineTokens_cons, unlineTokens_append, unlineTokens_nil,
    unlineTokens_memberTokens, List.cons_append, List.append_assoc, List.nil_append,
    List.cons.injEq, wordToken_inj, true_and] at h
  obtain ⟨hname, h⟩ := h
  obtain rfl := objectName_inj hname
  refine ⟨rfl, ?_⟩
  cases kind with
  | versions =>
    obtain ⟨hentries, hrest⟩ := members_cancel selfDelimiting_versionMember h
    exact ⟨hentries, (List.cons.inj hrest).2⟩
  | libraries =>
    obtain ⟨hentries, hrest⟩ := members_cancel selfDelimiting_libraryMember h
    exact ⟨hentries, (List.cons.inj hrest).2⟩
  | plugins =>
    obtain ⟨hentries, hrest⟩ := members_cancel selfDelimiting_pluginMember h
    exact ⟨hentries, (List.cons.inj hrest).2⟩
  | bundles =>
    simp only [bundleMembers_eq, closingTokens, unlineTokens_cons, bundleBlockTokens_eq,
      List.nil_append, List.cons_append, List.append_assoc] at h
    obtain ⟨hnames, hblock⟩ := selfDelimiting_bundleMember.flatMap
      (fun _ t => init_ne_memberCode _ _ t) (fun _ t => init_ne_memberCode _ _ t) h
    simp only [List.cons.injEq, true_and] at hblock
    obtain ⟨hgroups, hrest⟩ := groups_cancel hnames hblock
    exact ⟨hgroups, by simpa using hrest⟩

/-- The objects of a class show which sections have one and what these sections tell. -/
theorem objects_cancel {c c' : Catalog} {kinds kinds' : List SectionKind} {r s : List Token}
    (h : unlineTokens (kinds.flatMap fun kind => [] :: objectTokens c kind) ++ .sign '}' :: r =
      unlineTokens (kinds'.flatMap fun kind => [] :: objectTokens c' kind) ++ .sign '}' :: s) :
    kinds = kinds' ∧ ∀ kind ∈ kinds, SameSection c c' kind := by
  induction kinds generalizing kinds' with
  | nil =>
    cases kinds' with
    | nil => simp
    | cons kind' kinds' => simp at h
  | cons kind kinds ih =>
    cases kinds' with
    | nil => simp at h
    | cons kind' kinds' =>
      simp only [List.flatMap_cons, unlineTokens_append, unlineTokens_cons, List.nil_append,
        List.cons_append, List.append_assoc, List.cons.injEq, true_and] at h
      obtain ⟨rfl, hsame, hrest⟩ := object_cancel h
      obtain ⟨rfl, hothers⟩ := ih hrest
      exact ⟨rfl, by simpa using ⟨hsame, hothers⟩⟩

/-- Sections without an object are alike: they have no entries with content. -/
theorem sameSection_of_notMem {c c' : Catalog} {kind : SectionKind} (h : kind ∉ shownKinds c)
    (h' : kind ∉ shownKinds c') : SameSection c c' kind := by
  simp only [mem_shownKinds, not_not] at h h'
  cases kind <;> simp_all [declarations, SameSection, named, groups]

theorem sameSection_of_classText_eq {c c' : Catalog} {options : Options} (h : shownKinds c ≠ [])
    (h' : shownKinds c' ≠ []) (heq : classText c options = classText c' options)
    (kind : SectionKind) : SameSection c c' kind := by
  have htokens := (reads_classText h options).unique (heq ▸ reads_classText h' options)
  rw [List.append_cancel_left_eq, List.cons.injEq] at htokens
  simp only [bodyTokens, List.cons_append, List.cons.injEq, true_and] at htokens
  obtain ⟨hkinds, hsame⟩ := objects_cancel htokens
  by_cases hshown : kind ∈ shownKinds c
  · exact hsame kind hshown
  · exact sameSection_of_notMem hshown (hkinds ▸ hshown)

theorem isLine_import {i : Importable} (h : i ∈ importables) :
    Text.IsLine ("import " ++ i.name).toList := by
  have hfeed : '\n' ∉ i.name.toList := by
    simp only [importables, List.mem_cons, List.not_mem_nil, or_false] at h
    rcases h with rfl | rfl | rfl | rfl | rfl | rfl | rfl | rfl | rfl | rfl <;>
      rw [String.toList_ofList] <;> decide
  have himport : "import ".toList = ['i', 'm', 'p', 'o', 'r', 't', ' '] := String.toList_ofList
  simp [Text.IsLine, himport, hfeed]

/-- What stands above two classes with the same options cannot make up for a difference in them. -/
theorem preamble_cancel {c c' : Catalog} (options : Options) {t t' : String}
    (h : preamble c options ++ t = preamble c' options ++ t') : t = t' := by
  have hlines (c : Catalog) : ∀ line ∈ (importedBy c).map fun i => ("import " ++ i.name).toList,
      Text.IsLine line := by
    intro line hline
    obtain ⟨i, hi, rfl⟩ := List.mem_map.mp hline
    exact isLine_import (List.mem_of_mem_filter hi)
  have htext := congrArg String.toList h
  simp only [preamble, imports, String.toList_append, Text.toList_unlines, List.append_assoc,
    List.append_cancel_left_eq, List.flatMap_map] at htext
  have hcancel := Text.lines_cancel (hlines c) (hlines c')
    (by simpa [List.flatMap_map] using htext)
  exact String.toList_inj.mp (List.append_cancel_left hcancel.2)

private theorem map_memberName_of_named_eq {α : Type} {l m : List (String × α)}
    (h : named l = named m) :
    (l.map fun entry => (memberName entry.1, entry.2)) =
      m.map fun entry => (memberName entry.1, entry.2) := by
  have hspelled := congrArg
    (List.map fun p : Token × α => (String.ofList p.1.spelling, p.2)) h
  simpa [named, ← memberName_eq_spelling, Function.comp_def] using hspelled

private theorem content_eq_of_sameSection {c c' : Catalog} (h : ∀ kind, SameSection c c' kind) :
    content c = content c' := by
  have hbundles := congrArg (List.map fun p : Token × List Token =>
    (String.ofList p.1.spelling, p.2.map fun t => String.ofList t.spelling)) (h .bundles)
  simp only [content, Content.mk.injEq]
  refine ⟨map_memberName_of_named_eq (h .versions), map_memberName_of_named_eq (h .libraries),
    ?_, map_memberName_of_named_eq (h .plugins)⟩
  simpa [groups, ← memberName_eq_spelling, ← identifier_eq_spelling, Function.comp_def] using
    hbundles

private theorem declarations_eq_of_content_eq {c c' : Catalog} (h : content c = content c')
    (kind : SectionKind) : declarations c kind = declarations c' kind := by
  simp only [content, Content.mk.injEq] at h
  obtain ⟨hversions, hlibraries, hbundles, hplugins⟩ := h
  cases kind with
  | versions =>
    have hmake := congrArg (List.map fun p : String × Version =>
      { versionDeclaration "" p.2 with name := p.1 }) hversions
    simpa [declarations, versionDeclaration, Function.comp_def] using hmake
  | libraries =>
    have hmake := congrArg (List.map fun p : String × Library =>
      { libraryDeclaration "" p.2 with name := p.1 }) hlibraries
    simpa [declarations, libraryDeclaration, Function.comp_def] using hmake
  | bundles =>
    have hmake := congrArg (List.map fun p : String × List String =>
      { bundleDeclaration "" {} with name := p.1 }) hbundles
    simpa [declarations, bundleDeclaration, Function.comp_def] using hmake
  | plugins =>
    have hmake := congrArg (List.map fun p : String × Plugin =>
      { pluginDeclaration "" p.2 with name := p.1 }) hplugins
    simpa [declarations, pluginDeclaration, Function.comp_def] using hmake

private theorem closingLines_eq_of_content_eq {c c' : Catalog} (h : content c = content c')
    (kind : SectionKind) : closingLines c kind = closingLines c' kind := by
  have hbundles := congrArg Content.bundles h
  cases kind with
  | bundles =>
    have hstatements := congrArg (List.map fun p : String × List String => p.2.map fun library =>
      "Bundles." ++ p.1 ++ ".add(Libraries." ++ library ++ ")") hbundles
    have hgroups : (liveEntries Bundle.isEmpty c.bundles).map bundleStatements =
        (liveEntries Bundle.isEmpty c'.bundles).map bundleStatements := by
      simp only [content, List.map_map, Function.comp_def] at hstatements
      exact hstatements
    simp only [closingLines, bundleBlock, hgroups]
  | versions | libraries | plugins => rfl

private theorem source_eq_of_content_eq {c c' : Catalog} (h : content c = content c')
    (options : Options) : source c options = source c' options := by
  have hdeclarations := declarations_eq_of_content_eq h
  have hobjects : objects c = objects c' := by
    simp only [objects_eq, hdeclarations, closingLines_eq_of_content_eq h]
  have hcontent : c.hasContent = c'.hasContent := by
    funext kind
    rw [hasContent_eq, hasContent_eq, hdeclarations]
  have himports : imports c = imports c' := by
    simp only [imports, importedBy, hcontent]
  simp only [source, preamble, classText, hobjects, himports]

/-- The source of a class tells the content of its catalog, all of it and nothing else: two catalogs
have the same source if and only if their entries that are not empty agree one by one, in the names
of their values and in every field. -/
theorem source_eq_source_iff (c c' : Catalog) (options : Options) :
    source c options = source c' options ↔ content c = content c' := by
  refine ⟨fun h => ?_, fun h => source_eq_of_content_eq h options⟩
  apply content_eq_of_sameSection
  by_cases hnil : shownKinds c = []
  · have hnil' : shownKinds c' = [] := source_eq_empty_iff.mp (h ▸ source_eq_empty_iff.mpr hnil)
    intro kind
    have hkind : kind ∉ shownKinds c := by simp [hnil]
    have hkind' : kind ∉ shownKinds c' := by simp [hnil']
    exact sameSection_of_notMem hkind hkind'
  · have hne : shownKinds c' ≠ [] := fun hnil' =>
      hnil (source_eq_empty_iff.mp (h ▸ source_eq_empty_iff.mpr hnil'))
    have hclass : classText c options = classText c' options := by
      apply preamble_cancel options
      simpa [source, objects_eq_map, hnil, hne] using h
    exact sameSection_of_classText_eq hnil hne hclass

end VersionCatalog.Kotlin
