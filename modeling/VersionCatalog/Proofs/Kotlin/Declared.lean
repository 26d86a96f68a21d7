import VersionCatalog.Proofs.Kotlin.Content
import VersionCatalog.Proofs.Kotlin.Words

namespace VersionCatalog.Kotlin

/-- What the next token is the name of. -/
inductive Awaited where
  | nothing
  | object
  | value
  deriving DecidableEq, Repr

/-- A survey of tokens: the object that began last, what the next token names, and the values found
so far, each with its object. -/
structure Survey where
  object : Option Token := none
  awaited : Awaited := .nothing
  found : List (Option Token × Token) := []
  deriving DecidableEq, Repr

def Survey.step (s : Survey) (t : Token) : Survey :=
  match s.awaited with
  | .object => { s with object := some t, awaited := .nothing }
  | .value => { s with found := s.found ++ [(s.object, t)], awaited := .nothing }
  | .nothing =>
    if t = wordToken "object" then { s with awaited := .object }
    else if t = wordToken "val" then { s with awaited := .value }
    else s

def Survey.run (s : Survey) (tokens : List Token) : Survey :=
  tokens.foldl Survey.step s

/-- The names of the values that a text declares in an object, as they are written. -/
def declaredNames (text : String) (object : String) : List String :=
  match read (.code []) text.toList with
  | some (tokens, _) =>
    ((Survey.run {} tokens).found.filter (·.1 = some (wordToken object))).map fun value =>
      String.ofList value.2.spelling
  | none => []

@[simp] theorem Survey.run_nil (s : Survey) : s.run [] = s := rfl

theorem Survey.run_cons (s : Survey) (t : Token) (tokens : List Token) :
    s.run (t :: tokens) = (s.step t).run tokens := rfl

theorem Survey.run_append (s : Survey) (a b : List Token) : s.run (a ++ b) = (s.run a).run b :=
  List.foldl_append

def Token.opensName (t : Token) : Bool :=
  t = wordToken "object" || t = wordToken "val"

@[simp] theorem opensName_sign (c : Char) : (Token.sign c).opensName = false := by
  simp [Token.opensName, wordToken]

@[simp] theorem opensName_text (value : List Char) : (Token.text value).opensName = false := by
  simp [Token.opensName, wordToken]

@[simp] theorem opensName_wordToken (word : String) :
    (wordToken word).opensName = (word = "object" || word = "val" : Bool) := by
  simp [Token.opensName, wordToken, ← String.toList_inj]

/-- Keywords are written between backquotes when they are names. -/
theorem identifierToken_ne_wordToken (name : List Char) (word : String) (h : word ∈ keywords) :
    identifierToken name ≠ wordToken word := by
  unfold identifierToken
  split_ifs with hplain
  · intro heq
    obtain ⟨-, -, -, hkeyword⟩ := isPlain_iff.mp hplain
    rw [wordToken, Token.word.injEq] at heq
    exact hkeyword (by simpa [heq] using h)
  · simp [wordToken]

@[simp] theorem opensName_identifierToken (name : List Char) :
    (identifierToken name).opensName = false := by
  have hobject := identifierToken_ne_wordToken name "object" (by decide)
  have hval := identifierToken_ne_wordToken name "val" (by decide)
  simp [Token.opensName, hobject, hval]

/-- Tokens without the words that a survey looks for. -/
def Silent (tokens : List Token) : Prop :=
  ∀ t ∈ tokens, t.opensName = false

private theorem additive_silent : Additive Silent :=
  additive_forall fun t => t.opensName = false

/-- A survey passes over silent tokens. -/
theorem Survey.run_silent {s : Survey} (hs : s.awaited = .nothing) {tokens : List Token}
    (h : Silent tokens) : s.run tokens = s := by
  induction tokens with
  | nil => rfl
  | cons t tokens ih =>
    have ht : t.opensName = false := h t (by simp)
    simp only [Token.opensName, Bool.or_eq_false_iff, decide_eq_false_iff_not] at ht
    rw [Survey.run_cons, Survey.step, hs]
    simpa [ht] using ih fun u hu => h u (by simp [hu])

theorem MadeOf.opensName {words : List String} {t : Token} (h : MadeOf words t)
    (hobject : "object" ∉ words) (hval : "val" ∉ words) : t.opensName = false := by
  cases h with
  | sign c => exact opensName_sign c
  | text value => exact opensName_text value
  | @word word hword =>
    have hne : word ≠ "object" := fun heq => hobject (heq ▸ hword)
    have hne' : word ≠ "val" := fun heq => hval (heq ▸ hword)
    simp [hne, hne']

private theorem silent_arguments (c : Catalog) (kind : SectionKind) :
    ∀ d ∈ declarationTokens c kind, Silent (unlineTokens d.arguments) := by
  intro d hd
  apply additive_silent.unlineTokens (by simp [Silent])
  intro line hline t ht
  exact (madeOf_arguments c kind d hd line hline t ht).opensName (by cases kind <;> decide)
    (by cases kind <;> decide)

def Survey.addValue (s : Survey) (name : Token) : Survey :=
  { s with found := s.found ++ [(s.object, name)] }

/-- In a member a survey finds the value that the member declares, and nothing else. -/
theorem Survey.run_member {s : Survey} (hs : s.awaited = .nothing) {d : DeclarationTokens}
    (htype : d.type.opensName = false) (hcall : d.call.opensName = false)
    (harguments : Silent (unlineTokens d.arguments)) :
    s.run (memberCode d) = s.addValue d.name := by
  have hstart : Silent [.sign '\n', .sign '@', wordToken "JvmStatic", .sign '\n'] := by
    simp [Silent]
  have hclose : Silent [.sign ')', .sign '\n'] := by simp [Silent]
  have hcode : ∃ rest, Silent rest ∧ memberCode d =
      [.sign '\n', .sign '@', wordToken "JvmStatic", .sign '\n'] ++
        ([wordToken "val", d.name] ++ rest) := by
    by_cases hempty : d.arguments = []
    · refine ⟨[.sign ':', d.type, .sign '=', d.call, .sign '('] ++ [.sign ')', .sign '\n'], ?_, ?_⟩
      · exact additive_silent.append (by simp [Silent, htype, hcall]) hclose
      · simp [memberCode, DeclarationTokens.lines, hempty]
    · refine ⟨[.sign ':', d.type, .sign '=', d.call, .sign '(', .sign '\n'] ++
        (unlineTokens d.arguments ++ [.sign ')', .sign '\n']), ?_, ?_⟩
      · exact additive_silent.append (by simp [Silent, htype, hcall])
          (additive_silent.append harguments hclose)
      · simp [memberCode, DeclarationTokens.lines, hempty]
  obtain ⟨rest, hrest, hcode⟩ := hcode
  -- only `val` and the name after it move the survey
  have hname : s.run [wordToken "val", d.name] = s.addValue d.name := by
    simp [Survey.run, Survey.step, Survey.addValue, hs, wordToken]
  have hidle : (s.addValue d.name).awaited = .nothing := hs
  rw [hcode, Survey.run_append, Survey.run_silent hs hstart, Survey.run_append, hname]
  exact Survey.run_silent hidle hrest

private theorem declaration_silent {c : Catalog} {kind : SectionKind} :
    ∀ d ∈ declarationTokens c kind, d.type.opensName = false ∧ d.call.opensName = false := by
  intro d hd
  cases kind <;> obtain ⟨entry, -, rfl⟩ := List.mem_map.mp hd <;>
    exact ⟨opensName_wordToken _, opensName_wordToken _⟩

theorem Survey.run_members {s : Survey} (hs : s.awaited = .nothing) {ds : List DeclarationTokens}
    (h : ∀ d ∈ ds, (d.type.opensName = false ∧ d.call.opensName = false) ∧
      Silent (unlineTokens d.arguments)) :
    s.run (ds.flatMap memberCode) =
      { s with found := s.found ++ ds.map fun d => (s.object, d.name) } := by
  induction ds generalizing s with
  | nil => simp
  | cons d ds ih =>
    obtain ⟨⟨htype, hcall⟩, harguments⟩ := h d (by simp)
    rw [List.flatMap_cons, Survey.run_append, Survey.run_member hs htype hcall harguments]
    rw [ih (s := s.addValue d.name) hs fun e he => h e (by simp [he])]
    simp [Survey.addValue]

private theorem silent_closingTokens (c : Catalog) (kind : SectionKind) :
    Silent (unlineTokens (closingTokens c kind)) := by
  intro t ht
  cases inBundleBlock_closingTokens c kind t ht with
  | sign c => exact opensName_sign c
  | word hword => exact (MadeOf.word hword).opensName (by decide) (by decide)
  | bundle => exact opensName_identifierToken _
  | library => exact opensName_identifierToken _

theorem Survey.run_object {s : Survey} (hs : s.awaited = .nothing) (c : Catalog)
    (kind : SectionKind) :
    s.run (unlineTokens (objectTokens c kind)) =
      { object := some (wordToken (objectName kind)), awaited := .nothing
        found := s.found ++ (declarationTokens c kind).map fun d =>
          (some (wordToken (objectName kind)), d.name) } := by
  have hcode : unlineTokens (objectTokens c kind) =
      [wordToken "object", wordToken (objectName kind)] ++ ([.sign '{', .sign '\n'] ++
        ((declarationTokens c kind).flatMap memberCode ++
          (unlineTokens (closingTokens c kind) ++ [.sign '}', .sign '\n']))) := by
    simp [objectTokens, ← unlineTokens_memberTokens]
  have hname : s.run [wordToken "object", wordToken (objectName kind)] =
      ⟨some (wordToken (objectName kind)), .nothing, s.found⟩ := by
    simp [Survey.run, Survey.step, hs]
  have hopen : Silent [.sign '{', .sign '\n'] := by simp [Silent]
  have hclose : Silent (unlineTokens (closingTokens c kind) ++ [.sign '}', .sign '\n']) :=
    additive_silent.append (silent_closingTokens c kind) (by simp [Silent])
  have hmembers : ∀ d ∈ declarationTokens c kind,
      (d.type.opensName = false ∧ d.call.opensName = false) ∧
        Silent (unlineTokens d.arguments) := fun d hd =>
    ⟨declaration_silent d hd, silent_arguments c kind d hd⟩
  rw [hcode, Survey.run_append, hname, Survey.run_append, Survey.run_silent rfl hopen,
    Survey.run_append, Survey.run_members rfl hmembers, Survey.run_silent rfl hclose]

/-- The values of a section, each under the name of the section's object. -/
def foundIn (c : Catalog) (kind : SectionKind) : List (Option Token × Token) :=
  (declarationTokens c kind).map fun d => (some (wordToken (objectName kind)), d.name)

theorem Survey.run_objects {s : Survey} (hs : s.awaited = .nothing) (c : Catalog)
    (kinds : List SectionKind) :
    let t := s.run (unlineTokens (kinds.flatMap fun kind => [] :: objectTokens c kind))
    t.awaited = .nothing ∧ t.found = s.found ++ kinds.flatMap (foundIn c) := by
  induction kinds generalizing s with
  | nil => simpa using hs
  | cons kind kinds ih =>
    have hcode : unlineTokens ([] :: objectTokens c kind) =
        [.sign '\n'] ++ unlineTokens (objectTokens c kind) := by simp
    have hobject : s.run (unlineTokens ([] :: objectTokens c kind)) =
        ⟨some (wordToken (objectName kind)), .nothing, s.found ++ foundIn c kind⟩ := by
      rw [hcode, Survey.run_append, Survey.run_silent hs (by simp [Silent]),
        Survey.run_object hs, foundIn]
    rw [List.flatMap_cons, unlineTokens_append, Survey.run_append, hobject, List.flatMap_cons,
      ← List.append_assoc]
    exact ih rfl

private theorem map_name_declarationTokens (c : Catalog) (kind : SectionKind) :
    ((declarationTokens c kind).map fun d => String.ofList d.name.spelling) =
      (declarations c kind).map (·.name) := by
  cases kind <;>
    simp [declarationTokens, declarations, versionDeclarationTokens, versionDeclaration,
      libraryDeclarationTokens, libraryDeclaration, bundleDeclarationTokens, bundleDeclaration,
      pluginDeclarationTokens, pluginDeclaration, memberName_eq_spelling]

/-- Sections without an object add nothing to what is taken from all sections. -/
theorem flatMap_shownKinds {α : Type} {c : Catalog} {f : SectionKind → List α}
    (h : ∀ kind, declarations c kind = [] → f kind = []) :
    (shownKinds c).flatMap f = sectionKinds.flatMap f := by
  rw [shownKinds]
  induction sectionKinds with
  | nil => rfl
  | cons kind kinds ih =>
    rw [List.filter_cons, List.flatMap_cons, ← ih]
    cases hkind : (declarations c kind).isEmpty with
    | false => rfl
    | true => simp [h kind (List.isEmpty_iff.mp hkind)]

private theorem foundIn_eq_nil {c : Catalog} {kind : SectionKind} (h : declarations c kind = []) :
    foundIn c kind = [] := by
  have hnames := map_name_declarationTokens c kind
  rw [h, List.map_nil, List.map_eq_nil_iff] at hnames
  rw [foundIn, hnames, List.map_nil]

private theorem found_classText (c : Catalog) (options : Options) :
    (Survey.run {} (headTokens options ++ .sign '{' ::
      (bodyTokens c ++ [.sign '}', .sign '\n']))).found = sectionKinds.flatMap (foundIn c) := by
  have hhead : Silent (headTokens options ++ [.sign '{', .sign '\n']) :=
    additive_silent.append (by simp [Silent, headTokens]) (by simp [Silent])
  have hclose : Silent [.sign '}', .sign '\n'] := by simp [Silent]
  have hcode : headTokens options ++ .sign '{' :: (bodyTokens c ++ [.sign '}', .sign '\n']) =
      (headTokens options ++ [.sign '{', .sign '\n']) ++
        (unlineTokens ((shownKinds c).flatMap fun kind => [] :: objectTokens c kind) ++
          [.sign '}', .sign '\n']) := by
    simp [bodyTokens]
  obtain ⟨hidle, hfound⟩ := Survey.run_objects (s := {}) rfl c (shownKinds c)
  rw [hcode, Survey.run_append, Survey.run_silent rfl hhead, Survey.run_append,
    Survey.run_silent hidle hclose, hfound, flatMap_shownKinds fun _ => foundIn_eq_nil,
    List.nil_append]

/-- The values of one section are those under the name of its object. -/
theorem filter_found (c : Catalog) (kind : SectionKind) :
    ((sectionKinds.flatMap (foundIn c)).filter (·.1 = some (wordToken (objectName kind)))) =
      foundIn c kind := by
  have hname (kind' : SectionKind) :
      (foundIn c kind').filter (·.1 = some (wordToken (objectName kind))) =
        if kind' = kind then foundIn c kind else [] := by
    split_ifs with h
    · subst h
      simp [foundIn, List.filter_eq_self]
    · have hne : objectName kind' ≠ objectName kind := fun heq => h (objectName_inj heq)
      simp [foundIn, wordToken_inj, hne]
  rw [List.filter_flatMap]
  simp only [hname]
  cases kind <;> simp [sectionKinds]

/-- A class declares in the object of a section the values of the section's entries with content, in
their order. -/
theorem declaredNames_classText {c : Catalog} (h : shownKinds c ≠ []) (options : Options)
    (kind : SectionKind) :
    declaredNames (classText c options) (objectName kind) =
      (declarations c kind).map (·.name) := by
  have hread := reads_classText h options
  rw [Reads] at hread
  rw [declaredNames, hread]
  simp only [found_classText, filter_found]
  simpa [foundIn, Function.comp_def] using map_name_declarationTokens c kind

end VersionCatalog.Kotlin
