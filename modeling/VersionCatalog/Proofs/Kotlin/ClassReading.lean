import VersionCatalog.Proofs.Kotlin.ClassTokens

namespace VersionCatalog.Kotlin

private theorem readsName_memberName (key : String) :
    ReadsName (memberName key).toList (memberToken key) := by
  have hname := readsName_identifierChars (Naming.camelChars key.toList)
  simpa [memberName, memberToken] using hname

private theorem readsName_identifier (name : String) :
    ReadsName (identifier name).toList (identifierToken name.toList) := by
  simpa using readsName_identifierChars name.toList

private theorem reads_quote (text : String) : Reads (quote text).toList [.text text.toList] := by
  simpa using reads_quoteChars text.toList

private theorem reads_joinWith_quote (first : String) (others : List String) :
    Reads (Text.joinWith ", " ((first :: others).map quote)).toList
      (.text first.toList :: others.flatMap fun text => [.sign ',', .text text.toList]) := by
  induction others generalizing first with
  | nil => simpa [List.intercalate] using reads_quoteChars first.toList
  | cons second others ih =>
    have hcomma : Reads [',', ' '] [.sign ','] := by simp [Reads, signTokens]
    have hread := (reads_quoteChars first.toList).append (hcomma.append (ih second))
    simpa [List.intercalate] using hread

private theorem reads_listOf (texts : List String) :
    Reads (listOf texts).toList (listTokens texts) := by
  cases texts with
  | nil => simp [Reads, listOf, listTokens, signTokens, wordToken]
  | cons first others =>
    have hopen : Reads "listOf(".toList [wordToken "listOf", .sign '('] := by
      simp [Reads, signTokens, wordToken]
    have hclose : Reads ")".toList [.sign ')'] := by simp [Reads, signTokens]
    have hread := hopen.append ((reads_joinWith_quote first others).append hclose)
    simpa [listOf, listTokens] using hread

private theorem readsLine_comma : ReadsLine "," [.sign ','] := by
  simp [ReadsLine, Reads, signTokens]

private theorem readsLine_close : ReadsLine ")" [.sign ')'] := by
  simp [ReadsLine, Reads, signTokens]

private theorem readsLines_versionArguments (v : Version) :
    ReadsLines (versionArguments v) (versionTokens v) := by
  have hnull : ReadsLine "null" [wordToken "null"] := by
    simp [ReadsLine, Reads, signTokens, wordToken]
  exact .cons (ReadsLine.append (reads_quote _) readsLine_comma)
    (.cons (ReadsLine.append (reads_quote _) readsLine_comma)
      (.cons (ReadsLine.append (reads_quote _) readsLine_comma)
        (.cons (ReadsLine.append (reads_listOf _) readsLine_comma) (.cons hnull .nil))))

private theorem readsLines_dependencyVersion (v : Version) :
    ReadsLines (dependencyVersion v) (dependencyTokens v) := by
  have hmutable : ReadsLine "DefaultMutableVersionConstraint("
      [wordToken "DefaultMutableVersionConstraint", .sign '('] := by
    simp [ReadsLine, Reads, signTokens, wordToken]
  have himmutable : ReadsLine "DefaultImmutableVersionConstraint("
      [wordToken "DefaultImmutableVersionConstraint", .sign '('] := by
    simp [ReadsLine, Reads, signTokens, wordToken]
  have hinner := ReadsLines.block himmutable (readsLines_versionArguments v) readsLine_close
  exact ReadsLines.block hmutable hinner readsLine_close

/-- A declaration whose parts are read as the parts of its tokens. -/
structure Declaration.ReadsAs (d : Declaration) (t : DeclarationTokens) : Prop where
  name : ReadsName d.name.toList t.name
  type : ReadsName d.type.toList t.type
  call : ReadsName d.call.toList t.call
  arguments : ReadsLines d.arguments t.arguments

/-- The start of a declaration, up to the bracket of its call. -/
theorem Declaration.ReadsAs.start {d : Declaration} {t : DeclarationTokens} (h : d.ReadsAs t) :
    Reads ("val " ++ d.name ++ ": " ++ d.type ++ " = " ++ d.call ++ "(").toList
      [wordToken "val", t.name, .sign ':', t.type, .sign '=', t.call, .sign '('] := by
  have hval : Reads "val ".toList [wordToken "val"] := by simp [Reads, signTokens, wordToken]
  have hblank : Reads " ".toList [] := by simp [Reads, signTokens]
  have hequals : Reads "= ".toList [.sign '='] := by simp [Reads, signTokens]
  have hcall := h.call '(' (isSign_of_mem (by decide))
  have htype := h.type.append (c := ' ') (isSign_of_mem (by decide)) (hequals.append hcall)
  have hname := h.name.append (c := ':') (isSign_of_mem (by decide)) (hblank.append htype)
  have hread := hval.append hname
  simpa [signTokens] using hread

theorem Declaration.ReadsAs.lines {d : Declaration} {t : DeclarationTokens} (h : d.ReadsAs t) :
    ReadsLines d.lines t.lines := by
  have hlength := List.Forall₂.length_eq h.arguments
  have hiff : d.arguments.isEmpty = t.arguments.isEmpty := by
    rw [Bool.eq_iff_iff, List.isEmpty_iff_length_eq_zero, List.isEmpty_iff_length_eq_zero, hlength]
  simp only [Declaration.lines, DeclarationTokens.lines, hiff]
  split_ifs
  · exact .cons (ReadsLine.append h.start readsLine_close) .nil
  · exact ReadsLines.block h.start.line h.arguments readsLine_close

private theorem readsName_wordToken {letters : List Char}
    (h : (!letters.isEmpty && letters.all isWordChar) = true) :
    ReadsName (String.ofList letters).toList (wordToken (String.ofList letters)) := by
  simp only [Bool.and_eq_true, Bool.not_eq_true', List.isEmpty_eq_false_iff,
    List.all_eq_true] at h
  rw [wordToken, String.toList_ofList]
  exact readsName_word h.1 h.2

private theorem readsAs_versionDeclaration (key : String) (v : Version) :
    (versionDeclaration key v).ReadsAs (versionDeclarationTokens (memberToken key) v) where
  name := readsName_memberName key
  type := readsName_wordToken (by decide)
  call := readsName_wordToken (by decide)
  arguments := readsLines_versionArguments v

private theorem readsAs_libraryDeclaration (key : String) (l : Library) :
    (libraryDeclaration key l).ReadsAs (libraryDeclarationTokens (memberToken key) l) where
  name := readsName_memberName key
  type := readsName_wordToken (by decide)
  call := readsName_wordToken (by decide)
  arguments := by
    have hcall : Reads "DefaultModuleIdentifier.newId(".toList
        [wordToken "DefaultModuleIdentifier", .sign '.', wordToken "newId", .sign '('] := by
      simp [Reads, signTokens, wordToken]
    have hcomma : Reads ", ".toList [.sign ','] := by simp [Reads, signTokens]
    have hclose : ReadsLine ")," [.sign ')', .sign ','] := by simp [ReadsLine, Reads, signTokens]
    have hcoordinates := ((hcall.append_toList (reads_quote l.group)).append_toList
      hcomma).append_toList (reads_quote l.name)
    exact .cons (ReadsLine.append hcoordinates hclose) (readsLines_dependencyVersion l.version)

private theorem readsAs_pluginDeclaration (key : String) (p : Plugin) :
    (pluginDeclaration key p).ReadsAs (pluginDeclarationTokens (memberToken key) p) where
  name := readsName_memberName key
  type := readsName_wordToken (by decide)
  call := readsName_wordToken (by decide)
  arguments := .cons (ReadsLine.append (reads_quote p.id) readsLine_comma)
    (readsLines_dependencyVersion p.version)

private theorem readsAs_bundleDeclaration (key : String) (b : Bundle) :
    (bundleDeclaration key b).ReadsAs (bundleDeclarationTokens (memberToken key)) where
  name := readsName_memberName key
  type := readsName_wordToken (by decide)
  call := readsName_wordToken (by decide)
  arguments := .nil

private theorem readsLines_bundleStatements (key : String) (b : Bundle) :
    ReadsLines (bundleStatements (key, b)) (bundleTokens (memberToken key) b) := by
  refine List.forall₂_map_left_iff.mpr (List.forall₂_map_right_iff.mpr
    (List.forall₂_same.mpr fun library _ => ?_))
  have hbundles : Reads "Bundles.".toList [wordToken "Bundles", .sign '.'] := by
    simp [Reads, signTokens, wordToken]
  have hadd : Reads "add(Libraries.".toList
      [wordToken "add", .sign '(', wordToken "Libraries", .sign '.'] := by
    simp [Reads, signTokens, wordToken]
  have hlibrary := readsName_identifier library ')' (isSign_of_mem (by decide))
  have hbundle := (readsName_memberName key).append (c := '.') (isSign_of_mem (by decide))
    (hadd.append hlibrary)
  have hread := hbundles.append hbundle
  apply Reads.line
  simpa [statementTokens, libraryToken, signTokens] using hread

private theorem readsLines_bundleBlock (bundles : List (String × Bundle)) :
    ReadsLines (bundleBlock bundles) (bundleBlockTokens bundles) := by
  have hinit : ReadsLine "init \x7b" [wordToken "init", .sign '{'] := by
    simp [ReadsLine, Reads, signTokens, wordToken]
  have hclose : ReadsLine "\x7d" [.sign '}'] := by
    simp [ReadsLine, Reads, signTokens]
  have hstatements : List.Forall₂ ReadsLines (bundles.map bundleStatements)
      (bundles.map fun entry => bundleTokens (memberToken entry.1) entry.2) :=
    List.forall₂_map_left_iff.mpr (List.forall₂_map_right_iff.mpr
      (List.forall₂_same.mpr fun entry _ => readsLines_bundleStatements entry.1 entry.2))
  exact ReadsLines.block hinit (ReadsLines.intercalate hstatements) hclose

theorem readsAs_declarations (c : Catalog) (kind : SectionKind) :
    List.Forall₂ Declaration.ReadsAs (declarations c kind) (declarationTokens c kind) := by
  cases kind <;>
    refine List.forall₂_map_left_iff.mpr (List.forall₂_map_right_iff.mpr
      (List.forall₂_same.mpr fun entry _ => ?_))
  · exact readsAs_versionDeclaration entry.1 entry.2
  · exact readsAs_libraryDeclaration entry.1 entry.2
  · exact readsAs_bundleDeclaration entry.1 entry.2
  · exact readsAs_pluginDeclaration entry.1 entry.2

private theorem readsLines_members (c : Catalog) (kind : SectionKind) :
    ReadsLines ((declarations c kind).flatMap fun d => "" :: "@JvmStatic" :: d.lines)
      (memberTokens (declarationTokens c kind)) := by
  have hstatic : ReadsLine "@JvmStatic" [.sign '@', wordToken "JvmStatic"] := by
    simp [ReadsLine, Reads, signTokens, wordToken]
  exact ReadsLines.flatMap (readsAs_declarations c kind) fun d t h =>
    .cons readsLine_empty (.cons hstatic h.lines)

private theorem readsLines_body (c : Catalog) (kind : SectionKind) :
    ReadsLines
      (let members := (declarations c kind).flatMap fun d => "" :: "@JvmStatic" :: d.lines
       if (closingLines c kind).isEmpty then members else members ++ "" :: closingLines c kind)
      (memberTokens (declarationTokens c kind) ++ closingTokens c kind) := by
  have hmembers := readsLines_members c kind
  cases kind with
  | bundles => exact hmembers.append (.cons readsLine_empty (readsLines_bundleBlock _))
  | versions | libraries | plugins => simpa [closingLines, closingTokens] using hmembers

theorem readsLines_object (c : Catalog) (kind : SectionKind) :
    ReadsLines (objectLines c kind) (objectTokens c kind) := by
  have hopen : ReadsLine ("object " ++ objectName kind ++ " \x7b")
      [wordToken "object", wordToken (objectName kind), .sign '{'] := by
    cases kind <;> simp [ReadsLine, Reads, objectName, signTokens, wordToken]
  have hclose : ReadsLine "\x7d" [.sign '}'] := by
    simp [ReadsLine, Reads, signTokens]
  exact ReadsLines.block hopen (readsLines_body c kind) hclose

theorem reads_classHead (options : Options) :
    Reads (classHead options).toList (headTokens options) := by
  have hclass : Reads "class ".toList [wordToken "class"] := by simp [Reads, signTokens, wordToken]
  have hprivate : Reads "private constructor() ".toList
      [wordToken "private", wordToken "constructor", .sign '(', .sign ')'] := by
    simp [Reads, signTokens, wordToken]
  have hname := (readsName_identifier options.typeName).append (c := ' ')
    (isSign_of_mem (by decide)) hprivate
  have hread := hclass.append hname
  simpa [classHead, headTokens, signTokens] using hread

theorem reads_classBody (c : Catalog) : Reads (classBody c).toList (bodyTokens c) := by
  have hobjects : List.Forall₂ (fun kind kind' => kind = kind') (shownKinds c) (shownKinds c) :=
    List.forall₂_same.mpr fun _ _ => rfl
  have hlines := ReadsLines.flatMap (f := fun kind => "" :: indent (objectLines c kind))
    (g := fun kind => [] :: objectTokens c kind) hobjects (by
      rintro kind _ rfl
      exact .cons readsLine_empty (readsLines_object c kind).indent)
  have hfeed : Reads "\n".toList [.sign '\n'] := by simp [Reads, signTokens]
  exact hfeed.append_toList hlines.unlines

theorem reads_classText {c : Catalog} (h : shownKinds c ≠ []) (options : Options) :
    Reads (classText c options).toList
      (headTokens options ++ .sign '{' :: (bodyTokens c ++ [.sign '}', .sign '\n'])) := by
  have hopen : Reads "\x7b".toList [.sign '{'] := by simp [Reads, signTokens]
  have hclose : Reads "\x7d\n".toList [.sign '}', .sign '\n'] := by simp [Reads, signTokens]
  rw [classText_eq h]
  have hread := (((reads_classHead options).append_toList hopen).append_toList
    (reads_classBody c)).append_toList hclose
  simpa using hread

end VersionCatalog.Kotlin
