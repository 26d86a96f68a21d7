import Mathlib.Data.List.TakeWhile
import VersionCatalog.Proofs.Kotlin.ClassLines

namespace VersionCatalog.Kotlin

def initLine : TokenLine :=
  [wordToken "init", .sign '{']

def objectLine (object : String) : TokenLine :=
  [wordToken "object", wordToken object, .sign '{']

/-- The lines in the first block of initialization behind the header of an object, up to the brace
that closes the block. -/
def initLines (object : String) (lines : List TokenLine) : List TokenLine :=
  (((lines.dropWhile (· ≠ objectLine object)).dropWhile (· ≠ initLine)).drop 1).takeWhile
    (· ≠ [.sign '}'])

/-- The spelling of a line, without its blanks. -/
def spellLine (line : TokenLine) : String :=
  String.ofList (line.flatMap Token.spelling)

/-- The statements that a text has in the block of initialization of an object, line by line. A line
break in a name belongs to its token and ends no line. -/
def initStatements (text : String) (object : String) : List String :=
  match read (.code []) text.toList with
  | some (tokens, _) => (initLines object (tokens.splitOn (.sign '\n'))).map spellLine
  | none => []

@[simp] theorem wordToken_ne_sign (word : String) (c : Char) : wordToken word ≠ .sign c := by
  simp [wordToken]

@[simp] theorem sign_ne_wordToken (c : Char) (word : String) : .sign c ≠ wordToken word := by
  simp [wordToken]

@[simp] theorem text_ne_wordToken (value : List Char) (word : String) :
    .text value ≠ wordToken word := by
  simp [wordToken]

@[simp] theorem sign_ne_identifierToken (c : Char) (name : List Char) :
    .sign c ≠ identifierToken name := by
  rw [identifierToken]
  split_ifs <;> simp

theorem sign_notMem_listTokens {c : Char} (h : c ∉ [',', '<', '>', '(', ')']) (texts : List String) :
    Token.sign c ∉ listTokens texts := by
  simp only [List.mem_cons, List.not_mem_nil, or_false, not_or] at h
  cases texts <;> simp [listTokens, h]

/-- A line that begins neither an object nor a block, and that ends where its text does. -/
structure IsInner (line : TokenLine) : Prop where
  feed : .sign '\n' ∉ line
  object : line.head? ≠ some (wordToken "object")
  init : line.head? ≠ some (wordToken "init")

theorem MemberLine.isInner {line : TokenLine} (h : MemberLine line) : IsInner line := by
  cases h with
  | list texts =>
    have hfeed := sign_notMem_listTokens (c := '\n') (by decide) texts
    constructor
    · simp [hfeed]
    all_goals cases texts <;> simp [listTokens, wordToken_inj]
  | _ => constructor <;> simp [wordToken_inj]

private theorem isInner_statementTokens (bundle library : List Char) :
    IsInner (statementTokens (identifierToken bundle) (identifierToken library)) := by
  constructor <;> simp [statementTokens, wordToken_inj]

theorem IsInner.ne_objectLine {line : TokenLine} (h : IsInner line) (object : String) :
    line ≠ objectLine object := by
  rintro rfl
  exact h.object rfl

theorem IsInner.ne_initLine {line : TokenLine} (h : IsInner line) : line ≠ initLine := by
  rintro rfl
  exact h.init rfl

/-- The lines of statements, with an empty line between those of two bundles. -/
def statementLines (bundles : List (String × Bundle)) : List TokenLine :=
  List.intercalate [[]] (bundles.map fun entry => bundleTokens (memberToken entry.1) entry.2)

private theorem mem_intercalate {α : Type} {separator : List α} {groups : List (List α)} {a : α}
    (h : a ∈ List.intercalate separator groups) : a ∈ separator ∨ ∃ group ∈ groups, a ∈ group := by
  induction groups with
  | nil => simp at h
  | cons group groups ih =>
    cases groups with
    | nil => exact .inr ⟨group, by simp, by simpa using h⟩
    | cons next groups =>
      rw [List.intercalate_cons_cons, List.append_assoc, List.mem_append, List.mem_append] at h
      rcases h with h | h | h
      · exact .inr ⟨group, by simp, h⟩
      · exact .inl h
      · refine (ih h).imp_right ?_
        rintro ⟨g, hg, ha⟩
        exact ⟨g, List.mem_cons_of_mem _ hg, ha⟩

/-- A line of statements is empty or the statement of a bundle and a library. -/
theorem mem_statementLines {bundles : List (String × Bundle)} {line : TokenLine}
    (h : line ∈ statementLines bundles) :
    line = [] ∨ ∃ bundle library,
      line = statementTokens (identifierToken bundle) (identifierToken library) := by
  rcases mem_intercalate h with hempty | ⟨group, hgroup, hline⟩
  · exact .inl (List.mem_singleton.mp hempty)
  · obtain ⟨entry, -, rfl⟩ := List.mem_map.mp hgroup
    obtain ⟨library, -, rfl⟩ := List.mem_map.mp hline
    exact .inr ⟨_, _, rfl⟩

private theorem isInner_of_mem_statementLines {bundles : List (String × Bundle)} {line : TokenLine}
    (h : line ∈ statementLines bundles) : IsInner line := by
  rcases mem_statementLines h with rfl | ⟨bundle, library, rfl⟩
  · exact MemberLine.empty.isInner
  · exact isInner_statementTokens bundle library

private theorem isInner_brace : IsInner [.sign '}'] := by
  constructor <;> simp

private theorem objectTokens_bundles (c : Catalog) :
    objectTokens c .bundles = objectLine "Bundles" ::
      ((memberTokens (declarationTokens c .bundles) ++ [[]]) ++ initLine ::
        (statementLines (liveEntries Bundle.isEmpty c.bundles) ++
          [.sign '}'] :: [[.sign '}']])) := by
  simp [objectTokens, closingTokens, bundleBlockTokens, objectLine, objectName, initLine,
    statementLines]

/-- The lines of an object are its header, that of its block, and lines that begin nothing. -/
theorem mem_objectTokens {c : Catalog} {kind : SectionKind} {line : TokenLine}
    (h : line ∈ objectTokens c kind) :
    line = objectLine (objectName kind) ∨ line = initLine ∨ IsInner line := by
  have hmembers (hline : line ∈ memberTokens (declarationTokens c kind)) : IsInner line :=
    (memberLine_of_mem hline).isInner
  cases kind with
  | bundles =>
    rw [objectTokens_bundles] at h
    simp only [List.mem_cons, List.mem_append, List.not_mem_nil, or_false] at h
    rcases h with h | (h | rfl) | h | h | rfl | rfl
    · exact .inl h
    · exact .inr (.inr (hmembers h))
    · exact .inr (.inr MemberLine.empty.isInner)
    · exact .inr (.inl h)
    · exact .inr (.inr (isInner_of_mem_statementLines h))
    · exact .inr (.inr isInner_brace)
    · exact .inr (.inr isInner_brace)
  | versions | libraries | plugins =>
    simp only [objectTokens, closingTokens, List.append_nil, List.cons_append, List.mem_cons,
      List.mem_append, List.not_mem_nil, or_false] at h
    rcases h with h | h | rfl
    · exact .inl h
    · exact .inr (.inr (hmembers h))
    · exact .inr (.inr isInner_brace)

private theorem isInner_headLine (options : Options) :
    IsInner (headTokens options ++ [.sign '{']) := by
  constructor <;> simp [headTokens, wordToken_inj]

/-- The lines of a class are the headers of its objects, those of their blocks, and lines that begin
nothing. -/
theorem mem_classLines {c : Catalog} {options : Options} {line : TokenLine}
    (h : line ∈ classLines c options) :
    (∃ kind ∈ shownKinds c, line = objectLine (objectName kind)) ∨ line = initLine ∨
      IsInner line := by
  simp only [classLines, List.cons_append, List.mem_cons, List.mem_append, List.mem_flatMap,
    List.not_mem_nil, or_false] at h
  rcases h with rfl | ⟨kind, hkind, rfl | h⟩ | rfl
  · exact .inr (.inr (isInner_headLine options))
  · exact .inr (.inr MemberLine.empty.isInner)
  · exact (mem_objectTokens h).imp_left fun hline => ⟨kind, hkind, hline⟩
  · exact .inr (.inr isInner_brace)

private theorem feed_notMem_classLines {c : Catalog} {options : Options} :
    ∀ line ∈ classLines c options, .sign '\n' ∉ line := by
  intro line hline
  rcases mem_classLines hline with ⟨kind, -, rfl⟩ | rfl | hinner
  · simp [objectLine]
  · simp [initLine]
  · exact hinner.feed

private theorem objectLine_ne_initLine (object : String) : objectLine object ≠ initLine := by
  simp [objectLine, initLine]

private theorem objectLine_inj {object object' : String} :
    objectLine object = objectLine object' ↔ object = object' := by
  simp [objectLine, wordToken_inj]

/-- Lines of a block behind the header of its object. -/
theorem initLines_block {object : String} {before members statements later : List TokenLine}
    (hbefore : ∀ line ∈ before, line ≠ objectLine object)
    (hmembers : ∀ line ∈ members, line ≠ initLine)
    (hstatements : ∀ line ∈ statements, line ≠ [.sign '}']) :
    initLines object (before ++ objectLine object ::
      (members ++ initLine :: (statements ++ [.sign '}'] :: later))) = statements := by
  have hmembers' : ∀ line ∈ objectLine object :: members, line ≠ initLine :=
    List.forall_mem_cons.mpr ⟨objectLine_ne_initLine object, hmembers⟩
  rw [initLines, List.dropWhile_append_of_pos (by simpa using hbefore),
    List.dropWhile_cons_of_neg (by simp), ← List.cons_append,
    List.dropWhile_append_of_pos (by simpa using hmembers'), List.dropWhile_cons_of_neg (by simp),
    List.drop_one, List.tail_cons, List.takeWhile_append_of_pos (by simpa using hstatements),
    List.takeWhile_cons_of_neg (by simp), List.append_nil]

private theorem initLines_of_notMem {object : String} {lines : List TokenLine}
    (h : objectLine object ∉ lines) : initLines object lines = [] := by
  have hdrop : lines.dropWhile (· ≠ objectLine object) = [] := by
    rw [List.dropWhile_eq_nil_iff]
    intro line hline
    have hne : line ≠ objectLine object := by
      rintro rfl
      exact h hline
    simpa using hne
  rw [initLines, hdrop]
  rfl

theorem liveEntries_eq_nil {c : Catalog} (h : SectionKind.bundles ∉ shownKinds c) :
    liveEntries Bundle.isEmpty c.bundles = [] := by
  rw [mem_shownKinds, not_not, declarations, List.map_eq_nil_iff] at h
  exact h

/-- The header of an object stands before its own lines only. -/
theorem ne_objectLine_of_mem_objects {c : Catalog} {kind : SectionKind} {kinds : List SectionKind}
    (h : kind ∉ kinds) :
    ∀ line ∈ kinds.flatMap fun kind => [] :: objectTokens c kind,
      line ≠ objectLine (objectName kind) := by
  intro line hline
  obtain ⟨other, hother, hline⟩ := List.mem_flatMap.mp hline
  rcases List.mem_cons.mp hline with rfl | hline
  · simp [objectLine]
  rcases mem_objectTokens hline with rfl | rfl | hinner
  · intro heq
    rw [objectName_inj (objectLine_inj.mp heq)] at hother
    exact h hother
  · exact (objectLine_ne_initLine _).symm
  · exact hinner.ne_objectLine _

/-- The lines of a class around the statements of its bundles. -/
theorem classLines_of_bundles {c : Catalog} {before later : List SectionKind}
    (h : shownKinds c = before ++ .bundles :: later) (options : Options) :
    classLines c options ++ [[]] =
      ((headTokens options ++ [.sign '{']) ::
          (before.flatMap fun kind => [] :: objectTokens c kind) ++ [[]]) ++
        objectLine "Bundles" :: ((memberTokens (declarationTokens c .bundles) ++ [[]]) ++
          initLine :: (statementLines (liveEntries Bundle.isEmpty c.bundles) ++ [.sign '}'] ::
            ([.sign '}'] :: (later.flatMap fun kind => [] :: objectTokens c kind) ++
              [[.sign '}'], []]))) := by
  simp [classLines, h, objectTokens_bundles]

/-- The object of the bundles holds their statements. -/
theorem initLines_classLines (c : Catalog) (options : Options) :
    initLines "Bundles" (classLines c options ++ [[]]) =
      statementLines (liveEntries Bundle.isEmpty c.bundles) := by
  have hhead := (isInner_headLine options).ne_objectLine "Bundles"
  by_cases hshown : SectionKind.bundles ∈ shownKinds c
  · obtain ⟨before, later, hkinds, hbefore⟩ := List.eq_append_cons_of_mem hshown
    rw [classLines_of_bundles hkinds]
    apply initLines_block
    · intro line hline
      simp only [List.cons_append, List.mem_cons, List.mem_append, List.not_mem_nil,
        or_false] at hline
      rcases hline with rfl | hline | rfl
      · exact hhead
      · exact ne_objectLine_of_mem_objects hbefore line hline
      · simp [objectLine]
    · intro line hline
      rcases List.mem_append.mp hline with hline | hline
      · exact (memberLine_of_mem hline).isInner.ne_initLine
      · simp [List.mem_singleton.mp hline, initLine]
    · intro line hline
      rcases mem_statementLines hline with rfl | ⟨bundle, library, rfl⟩
      · simp
      · simp [statementTokens]
  · rw [liveEntries_eq_nil hshown]
    apply initLines_of_notMem
    intro hline
    simp only [classLines, List.cons_append, List.append_assoc, List.mem_cons, List.mem_append,
      List.not_mem_nil, or_false] at hline
    rcases hline with heq | hline | heq | heq
    · exact hhead heq.symm
    · exact ne_objectLine_of_mem_objects hshown _ hline rfl
    · simp [objectLine] at heq
    · simp [objectLine] at heq

private theorem spellLine_statementTokens (entry : String × Bundle) :
    (bundleTokens (memberToken entry.1) entry.2).map spellLine = bundleStatements entry := by
  rw [bundleTokens, bundleStatements, List.map_map]
  apply List.map_congr_left
  intro library _
  apply String.toList_inj.mp
  simp [spellLine, statementTokens, Token.spelling, wordToken, memberName_eq_spelling,
    identifier_eq_spelling]

private theorem map_intercalate {α β : Type} (f : α → β) (separator : List α)
    (groups : List (List α)) :
    (List.intercalate separator groups).map f =
      List.intercalate (separator.map f) (groups.map (List.map f)) := by
  induction groups with
  | nil => rfl
  | cons group groups ih =>
    cases groups with
    | nil => simp
    | cons next groups => simp [List.intercalate_cons_cons, ih]

private theorem spell_statementLines (bundles : List (String × Bundle)) :
    (statementLines bundles).map spellLine = List.intercalate [""] (bundles.map bundleStatements) := by
  rw [statementLines, map_intercalate, List.map_map]
  have hempty : spellLine [] = "" := rfl
  have hgroups : List.map spellLine ∘ (fun entry : String × Bundle =>
      bundleTokens (memberToken entry.1) entry.2) = bundleStatements :=
    funext spellLine_statementTokens
  rw [List.map_singleton, hempty, hgroups]

theorem initStatements_classText {c : Catalog} (h : shownKinds c ≠ []) (options : Options) :
    initStatements (classText c options) "Bundles" =
      List.intercalate [""] ((liveEntries Bundle.isEmpty c.bundles).map bundleStatements) := by
  have hread := reads_classLines h options
  rw [Reads] at hread
  rw [initStatements, hread]
  simp only [splitOn_unlineTokens feed_notMem_classLines, initLines_classLines]
  exact spell_statementLines _

end VersionCatalog.Kotlin
