import VersionCatalog.Proofs.Kotlin.ClassTokens

namespace VersionCatalog.Kotlin

/-- Signs, texts and words from a list. -/
inductive MadeOf (words : List String) : Token → Prop where
  | sign (c : Char) : MadeOf words (.sign c)
  | text (value : List Char) : MadeOf words (.text value)
  | word {word : String} (h : word ∈ words) : MadeOf words (wordToken word)

attribute [simp] MadeOf.sign MadeOf.text MadeOf.word

theorem MadeOf.mono {words words' : List String} {t : Token} (h : MadeOf words t)
    (hsubset : words ⊆ words') : MadeOf words' t := by
  cases h with
  | sign c => exact .sign c
  | text value => exact .text value
  | word hword => exact .word (hsubset hword)

/-- The words in a version. -/
def versionWords : List String :=
  ["emptyList", "String", "listOf", "null"]

/-- The words in the version that a library or plugin is made with. -/
def dependencyWords : List String :=
  "DefaultMutableVersionConstraint" :: "DefaultImmutableVersionConstraint" :: versionWords

/-- The words in the arguments of a section's declarations. -/
def argumentWords : SectionKind → List String
  | .versions => versionWords
  | .libraries => "DefaultModuleIdentifier" :: "newId" :: dependencyWords
  | .bundles => []
  | .plugins => dependencyWords

private theorem madeOf_listTokens (texts : List String) :
    ∀ t ∈ listTokens texts, MadeOf versionWords t := by
  cases texts with
  | nil => simp [listTokens, versionWords]
  | cons first others =>
    simp only [listTokens, List.cons_append, List.mem_cons, List.mem_append, List.mem_flatMap,
      List.not_mem_nil, or_false]
    rintro t (rfl | rfl | rfl | ⟨text, -, rfl | rfl⟩ | rfl) <;> simp [versionWords]

private theorem madeOf_versionTokens (v : Version) :
    ∀ line ∈ versionTokens v, ∀ t ∈ line, MadeOf versionWords t := by
  have htext (text : List Char) : ∀ t ∈ [.text text, .sign ','], MadeOf versionWords t := by simp
  have hlist : ∀ t ∈ listTokens v.rejected ++ [.sign ','], MadeOf versionWords t :=
    List.forall_mem_append.mpr ⟨madeOf_listTokens v.rejected, by simp⟩
  have hnull : ∀ t ∈ [wordToken "null"], MadeOf versionWords t := by simp [versionWords]
  intro line hline
  simp only [versionTokens, List.mem_cons, List.not_mem_nil, or_false] at hline
  rcases hline with rfl | rfl | rfl | rfl | rfl
  · exact htext _
  · exact htext _
  · exact htext _
  · exact hlist
  · exact hnull

private theorem madeOf_dependencyTokens (v : Version) :
    ∀ line ∈ dependencyTokens v, ∀ t ∈ line, MadeOf dependencyWords t := by
  refine forall_mem_dependencyTokens (by simp [dependencyWords]) (by simp [dependencyWords]) ?_
    (by simp)
  intro line hline t ht
  exact (madeOf_versionTokens v line hline t ht).mono (by simp [dependencyWords])

theorem madeOf_arguments (c : Catalog) (kind : SectionKind) :
    ∀ d ∈ declarationTokens c kind, ∀ line ∈ d.arguments, ∀ t ∈ line,
      MadeOf (argumentWords kind) t := by
  intro d hd
  cases kind <;> obtain ⟨entry, -, rfl⟩ := List.mem_map.mp hd
  · exact madeOf_versionTokens entry.2
  · refine List.forall_mem_cons.mpr ⟨by simp [argumentWords], fun line hline t ht => ?_⟩
    exact (madeOf_dependencyTokens entry.2.version line hline t ht).mono (by simp [argumentWords])
  · simp [bundleDeclarationTokens]
  · refine List.forall_mem_cons.mpr ⟨by simp, ?_⟩
    exact madeOf_dependencyTokens entry.2.version

/-- The words in the block that fills the bundles. -/
def bundleBlockWords : List String :=
  ["init", "Bundles", "add", "Libraries"]

/-- What the block that fills the bundles is made of. -/
inductive InBundleBlock (bundles : List (String × Bundle)) : Token → Prop where
  | sign (c : Char) : InBundleBlock bundles (.sign c)
  | word {word : String} (h : word ∈ bundleBlockWords) : InBundleBlock bundles (wordToken word)
  | bundle {entry : String × Bundle} (h : entry ∈ bundles) :
    InBundleBlock bundles (memberToken entry.1)
  | library {entry : String × Bundle} (h : entry ∈ bundles) {library : String}
    (hlibrary : library ∈ entry.2.libraries) : InBundleBlock bundles (libraryToken library)

attribute [simp] InBundleBlock.sign

private theorem inBundleBlock_bundleBlockTokens (bundles : List (String × Bundle)) :
    ∀ t ∈ unlineTokens (bundleBlockTokens bundles), InBundleBlock bundles t := by
  have hword : ∀ word ∈ bundleBlockWords, InBundleBlock bundles (wordToken word) :=
    fun _ h => .word h
  simp only [bundleBlockWords, List.forall_mem_cons, List.not_mem_nil, false_implies,
    implies_true, and_true] at hword
  obtain ⟨hinit, hbundles, hadd, hlibraries⟩ := hword
  have hopen : ∀ t ∈ [wordToken "init", .sign '{', .sign '\n'], InBundleBlock bundles t := by
    simp [hinit]
  have hclose : ∀ t ∈ [Token.sign '}', .sign '\n'], InBundleBlock bundles t := by simp
  have hadditive := additive_forall (InBundleBlock bundles)
  have hstatements : ∀ t ∈ unlineTokens (List.intercalate [[]]
      (bundles.map fun entry => bundleTokens (memberToken entry.1) entry.2)),
      InBundleBlock bundles t := by
    apply hadditive.intercalate (by simp)
    intro group hgroup
    obtain ⟨entry, hentry, rfl⟩ := List.mem_map.mp hgroup
    apply hadditive.unlineTokens (by simp)
    intro line hline
    obtain ⟨library, hlibrary, rfl⟩ := List.mem_map.mp hline
    simp [statementTokens, hbundles, hadd, hlibraries, InBundleBlock.bundle hentry,
      InBundleBlock.library hentry hlibrary]
  have hblock := hadditive.append hopen (hadditive.append hstatements hclose)
  simpa [bundleBlockTokens] using hblock

theorem inBundleBlock_closingTokens (c : Catalog) (kind : SectionKind) :
    ∀ t ∈ unlineTokens (closingTokens c kind),
      InBundleBlock (liveEntries Bundle.isEmpty c.bundles) t := by
  cases kind with
  | versions | libraries | plugins => simp [closingTokens]
  | bundles =>
    have hblock := inBundleBlock_bundleBlockTokens (liveEntries Bundle.isEmpty c.bundles)
    simpa [closingTokens] using hblock

end VersionCatalog.Kotlin
