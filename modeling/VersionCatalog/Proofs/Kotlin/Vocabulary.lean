import VersionCatalog.Proofs.Kotlin.ClassReading
import VersionCatalog.Proofs.Kotlin.Content
import VersionCatalog.Proofs.Kotlin.Words
import VersionCatalog.Proofs.Naming.Characters

namespace VersionCatalog.Kotlin

/-- The types that the object of a section speaks of. -/
def spokenTypes : SectionKind → List String
  | .versions => ["VersionConstraint", "DefaultImmutableVersionConstraint"]
  | .libraries => ["MinimalExternalModuleDependency", "DefaultMinimalDependency",
      "DefaultModuleIdentifier", "DefaultMutableVersionConstraint",
      "DefaultImmutableVersionConstraint"]
  | .bundles => ["ExternalModuleDependencyBundle", "DefaultExternalModuleDependencyBundle"]
  | .plugins => ["PluginDependency", "DefaultPluginDependency", "DefaultMutableVersionConstraint",
      "DefaultImmutableVersionConstraint"]

/-- The words of objects that are no types of a catalog. -/
def otherWords : List String := [
  "object", "Versions", "Libraries", "Bundles", "Plugins", "JvmStatic", "val", "emptyList",
  "String", "listOf", "null", "newId", "init", "add"]

/-- The tokens that may stand in the object of a section. -/
inductive IsSpoken (kind : SectionKind) : Token → Prop where
  | sign (c : Char) : IsSpoken kind (.sign c)
  | text (value : List Char) : IsSpoken kind (.text value)
  | member (key : String) : IsSpoken kind (memberToken key)
  | word {word : String} (h : word ∈ spokenTypes kind ∨ word ∈ otherWords) :
    IsSpoken kind (wordToken word)

attribute [simp] IsSpoken.sign IsSpoken.text IsSpoken.member IsSpoken.word

def Spoken (kind : SectionKind) (tokens : List Token) : Prop :=
  ∀ t ∈ tokens, IsSpoken kind t

variable {kind : SectionKind}

private theorem additive_spoken : Additive (Spoken kind) :=
  additive_forall (IsSpoken kind)

private theorem spoken_feed : Spoken kind [.sign '\n'] := by
  simp [Spoken]

theorem MadeOf.isSpoken {words : List String} {t : Token} (h : MadeOf words t)
    (hwords : ∀ word ∈ words, word ∈ spokenTypes kind ∨ word ∈ otherWords) : IsSpoken kind t := by
  cases h with
  | sign c => exact .sign c
  | text value => exact .text value
  | word hword => exact .word (hwords _ hword)

private theorem spoken_arguments (c : Catalog) (kind : SectionKind) :
    ∀ d ∈ declarationTokens c kind, ∀ line ∈ d.arguments, Spoken kind line :=
  fun d hd line hline t ht =>
    (madeOf_arguments c kind d hd line hline t ht).isSpoken (by cases kind <;> decide)

/-- The lines of a declaration speak of its type, of what it calls and of its arguments. -/
theorem spoken_lines {key type call : String} {arguments : List TokenLine}
    (htype : type ∈ spokenTypes kind) (hcall : call ∈ spokenTypes kind)
    (h : ∀ line ∈ arguments, Spoken kind line) :
    ∀ line ∈ (DeclarationTokens.mk (memberToken key) (wordToken type) (wordToken call)
      arguments).lines, Spoken kind line := by
  apply DeclarationTokens.forall_mem_lines
  · simp [Spoken, otherWords, htype, hcall]
  · simp [Spoken, otherWords, htype, hcall]
  · exact h
  · simp [Spoken]

private theorem spoken_declarationTokens (c : Catalog) (kind : SectionKind) :
    ∀ d ∈ declarationTokens c kind, ∀ line ∈ d.lines, Spoken kind line := by
  intro d hd
  cases kind <;> obtain ⟨entry, -, rfl⟩ := List.mem_map.mp hd <;>
    exact spoken_lines (by decide) (by decide) (spoken_arguments c _ _ hd)

private theorem spoken_memberTokens (c : Catalog) (kind : SectionKind) :
    Spoken kind (unlineTokens (memberTokens (declarationTokens c kind))) := by
  apply additive_spoken.unlineTokens spoken_feed
  intro line hline
  obtain ⟨d, hd, hline⟩ := List.mem_flatMap.mp hline
  simp only [List.mem_cons] at hline
  rcases hline with rfl | rfl | hline
  · simp [Spoken]
  · simp [Spoken, otherWords]
  · exact spoken_declarationTokens c kind d hd line hline

/-- The libraries of bundles are named as values are. -/
def HasMemberNames (c : Catalog) : Prop :=
  ∀ entry ∈ liveEntries Bundle.isEmpty c.bundles, ∀ library ∈ entry.2.libraries,
    ∃ element, library = Naming.camelCase element

private theorem libraryToken_camelCase (element : String) :
    libraryToken (Naming.camelCase element) = memberToken element := by
  rw [libraryToken, Naming.toList_camelCase, memberToken]

private theorem spoken_closingTokens {c : Catalog} (h : HasMemberNames c) (kind : SectionKind) :
    Spoken kind (unlineTokens (closingTokens c kind)) := by
  have hwords : bundleBlockWords ⊆ otherWords := by decide
  intro t ht
  cases inBundleBlock_closingTokens c kind t ht with
  | sign c => exact .sign c
  | word hword => exact .word (.inr (hwords hword))
  | bundle => exact .member _
  | @library entry hentry library hlibrary =>
    obtain ⟨element, rfl⟩ := h entry hentry library hlibrary
    rw [libraryToken_camelCase]
    exact .member element

private theorem spoken_objectTokens {c : Catalog} (h : HasMemberNames c) (kind : SectionKind) :
    Spoken kind (unlineTokens (objectTokens c kind)) := by
  have hopen : Spoken kind [wordToken "object", wordToken (objectName kind), .sign '{',
      .sign '\n'] := by
    cases kind <;> simp [Spoken, objectName, otherWords]
  have hclose : Spoken kind [.sign '}', .sign '\n'] := by simp [Spoken]
  have hobject := additive_spoken.append hopen (additive_spoken.append (spoken_memberTokens c kind)
    (additive_spoken.append (spoken_closingTokens h kind) hclose))
  simpa [objectTokens] using hobject

private theorem isUpper_head?_sanitize (name : List Char) :
    (sanitize name).head?.any Char.isUpper = name.head?.any Char.isUpper := by
  cases name with
  | nil => rfl
  | cons c cs =>
    by_cases hforbidden : isForbidden c = true
    · have hsign : c.isUpper = false := by
        simp only [isForbidden, Bool.or_eq_true, beq_iff_eq, or_assoc] at hforbidden
        rcases hforbidden with rfl | rfl | rfl | rfl | rfl | rfl | rfl | rfl | rfl | rfl <;> decide
      simp [sanitize, hforbidden, hsign]
    · simp [sanitize, hforbidden]

/-- No value is named by a word that begins with a capital. -/
theorem memberToken_ne_wordToken {word : String} (h : word.toList.head?.any Char.isUpper = true)
    (key : String) : memberToken key ≠ wordToken word := by
  intro heq
  rw [memberToken, identifierToken, wordToken] at heq
  split_ifs at heq
  rw [← Token.word.inj heq, isUpper_head?_sanitize, Naming.head?_camelChars] at h
  contradiction

theorem DeclarationTokens.mem_lines {d : DeclarationTokens} {t : Token}
    (h : t = d.type ∨ t = d.call ∨ t ∈ unlineTokens d.arguments) : t ∈ unlineTokens d.lines := by
  rw [DeclarationTokens.lines]
  split_ifs with harguments
  · rw [List.isEmpty_iff] at harguments
    simp only [harguments, unlineTokens_nil, List.not_mem_nil, or_false] at h
    rcases h with rfl | rfl <;> simp
  · rcases h with rfl | rfl | h <;> simp [*]

/-- Every declaration speaks of all types of its section. -/
theorem wordToken_mem_declaration {c : Catalog} {kind : SectionKind} {d : DeclarationTokens}
    (hd : d ∈ declarationTokens c kind) {type : String} (htype : type ∈ spokenTypes kind) :
    wordToken type ∈ unlineTokens d.lines := by
  apply DeclarationTokens.mem_lines
  cases kind <;> obtain ⟨entry, -, rfl⟩ := List.mem_map.mp hd <;>
    simp only [spokenTypes, List.mem_cons, List.not_mem_nil, or_false] at htype
  · rcases htype with rfl | rfl <;> simp [versionDeclarationTokens]
  · rcases htype with rfl | rfl | rfl | rfl | rfl <;>
      simp [libraryDeclarationTokens, libraryTokens, dependencyTokens]
  · rcases htype with rfl | rfl <;> simp [bundleDeclarationTokens]
  · rcases htype with rfl | rfl | rfl | rfl <;>
      simp [pluginDeclarationTokens, pluginTokens, dependencyTokens]

private theorem wordToken_mem_objectTokens {c : Catalog} {kind : SectionKind}
    (hshown : declarations c kind ≠ []) {type : String} (htype : type ∈ spokenTypes kind) :
    wordToken type ∈ unlineTokens (objectTokens c kind) := by
  obtain ⟨d, hd⟩ : ∃ d, d ∈ declarationTokens c kind := by
    apply List.exists_mem_of_ne_nil
    rwa [ne_eq, List.eq_nil_iff_length_eq_zero, ← (readsAs_declarations c kind).length_eq,
      ← List.eq_nil_iff_length_eq_zero]
  have hcode : wordToken type ∈ memberCode d := by
    simp [memberCode, wordToken_mem_declaration hd htype]
  have hmembers : wordToken type ∈ unlineTokens (memberTokens (declarationTokens c kind)) := by
    rw [unlineTokens_memberTokens]
    exact List.mem_flatMap.mpr ⟨d, hd, hcode⟩
  simp [objectTokens, hmembers]

/-- The types among the words of an object are those of its section. -/
theorem wordToken_mem_objectTokens_iff {c : Catalog} (h : HasMemberNames c) {kind : SectionKind}
    (hshown : declarations c kind ≠ []) {word : String}
    (hcapital : word.toList.head?.any Char.isUpper = true) (hother : word ∉ otherWords) :
    wordToken word ∈ unlineTokens (objectTokens c kind) ↔ word ∈ spokenTypes kind := by
  refine ⟨fun hmem => ?_, wordToken_mem_objectTokens hshown⟩
  generalize htoken : wordToken word = t at hmem
  cases spoken_objectTokens h kind t hmem with
  | sign | text => cases htoken
  | member key => exact absurd htoken.symm (memberToken_ne_wordToken hcapital key)
  | word hword =>
    obtain rfl := wordToken_inj.mp htoken
    exact hword.resolve_right hother

end VersionCatalog.Kotlin
