import VersionCatalog.Proofs.Kotlin.Content

namespace VersionCatalog.Kotlin

/-- The shapes of the lines of members. -/
inductive MemberLine : TokenLine → Prop where
  | empty : MemberLine []
  | jvmStatic : MemberLine [.sign '@', wordToken "JvmStatic"]
  | start (name : List Char) (type call : String) :
    MemberLine [wordToken "val", identifierToken name, .sign ':', wordToken type, .sign '=',
      wordToken call, .sign '(']
  | whole (name : List Char) (type call : String) :
    MemberLine [wordToken "val", identifierToken name, .sign ':', wordToken type, .sign '=',
      wordToken call, .sign '(', .sign ')']
  | coordinates (group name : List Char) :
    MemberLine [wordToken "DefaultModuleIdentifier", .sign '.', wordToken "newId", .sign '(',
      .text group, .sign ',', .text name, .sign ')', .sign ',']
  | mutableVersion : MemberLine [wordToken "DefaultMutableVersionConstraint", .sign '(']
  | immutableVersion : MemberLine [wordToken "DefaultImmutableVersionConstraint", .sign '(']
  | text (value : List Char) : MemberLine [.text value, .sign ',']
  | list (texts : List String) : MemberLine (listTokens texts ++ [.sign ','])
  | null : MemberLine [wordToken "null"]
  | close : MemberLine [.sign ')']

private theorem memberLine_versionTokens (v : Version) :
    ∀ line ∈ versionTokens v, MemberLine line := by
  simp only [versionTokens, List.mem_cons, List.not_mem_nil, or_false, forall_eq_or_imp, forall_eq]
  exact ⟨.text _, .text _, .text _, .list _, .null⟩

private theorem memberLine_dependencyTokens (v : Version) :
    ∀ line ∈ dependencyTokens v, MemberLine line :=
  forall_mem_dependencyTokens .mutableVersion .immutableVersion (memberLine_versionTokens v) .close

/-- The lines of a declaration have the shapes of its arguments and of its first and last line. -/
theorem memberLine_lines {name : List Char} {type call : String} {arguments : List TokenLine}
    (h : ∀ line ∈ arguments, MemberLine line) :
    ∀ line ∈ (DeclarationTokens.mk (identifierToken name) (wordToken type) (wordToken call)
      arguments).lines, MemberLine line :=
  DeclarationTokens.forall_mem_lines (.whole name type call) (.start name type call) h .close

private theorem memberLine_declarationTokens (c : Catalog) (kind : SectionKind) :
    ∀ d ∈ declarationTokens c kind, ∀ line ∈ d.lines, MemberLine line := by
  intro d hd
  cases kind <;> obtain ⟨entry, -, rfl⟩ := List.mem_map.mp hd
  · exact memberLine_lines (memberLine_versionTokens entry.2)
  · apply memberLine_lines
    exact List.forall_mem_cons.mpr ⟨.coordinates _ _, memberLine_dependencyTokens entry.2.version⟩
  · exact memberLine_lines (by simp)
  · apply memberLine_lines
    exact List.forall_mem_cons.mpr ⟨.text _, memberLine_dependencyTokens entry.2.version⟩

theorem memberLine_of_mem {c : Catalog} {kind : SectionKind} {line : TokenLine}
    (h : line ∈ memberTokens (declarationTokens c kind)) : MemberLine line := by
  obtain ⟨d, hd, hline⟩ := List.mem_flatMap.mp h
  rcases List.mem_cons.mp hline with rfl | hline
  · exact .empty
  · rcases List.mem_cons.mp hline with rfl | hline
    · exact .jvmStatic
    · exact memberLine_declarationTokens c kind d hd line hline

/-- All lines of a class. -/
def classLines (c : Catalog) (options : Options) : List TokenLine :=
  (headTokens options ++ [.sign '{']) ::
    ((shownKinds c).flatMap fun kind => [] :: objectTokens c kind) ++ [[.sign '}']]

theorem reads_classLines {c : Catalog} (h : shownKinds c ≠ []) (options : Options) :
    Reads (classText c options).toList (unlineTokens (classLines c options)) := by
  have hread := reads_classText h options
  simpa [classLines, bodyTokens] using hread

private theorem unlineTokens_eq_intercalate (lines : List TokenLine) :
    unlineTokens lines = List.intercalate [.sign '\n'] (lines ++ [[]]) := by
  induction lines with
  | nil => rfl
  | cons line lines ih =>
    cases lines with
    | nil => simp [List.intercalate_cons_cons]
    | cons next lines =>
      rw [unlineTokens_cons, ih]
      simp [List.intercalate_cons_cons]

/-- Lines without line feeds in them are found again between the line feeds. -/
theorem splitOn_unlineTokens {lines : List TokenLine} (h : ∀ line ∈ lines, .sign '\n' ∉ line) :
    (unlineTokens lines).splitOn (.sign '\n') = lines ++ [[]] := by
  rw [unlineTokens_eq_intercalate]
  apply List.splitOn_intercalate
  · intro line hline
    rcases List.mem_append.mp hline with hline | hline
    · exact h line hline
    · simp [List.mem_singleton.mp hline]
  · simp

end VersionCatalog.Kotlin
