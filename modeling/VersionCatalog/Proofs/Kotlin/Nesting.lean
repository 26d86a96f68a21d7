import VersionCatalog.Proofs.Kotlin.ClassReading

namespace VersionCatalog.Kotlin

/-- What a scan is in. A literal is `escaped` right after a backslash that escapes. -/
inductive Zone where
  | code
  | literal (escaped : Bool)
  | name
  deriving DecidableEq, Repr

/-- A scan of source: what it is in, and the open brackets, the innermost first. -/
structure Scan where
  zone : Zone := .code
  opened : List Char := []
  deriving DecidableEq, Repr

/-- The open brackets after a character of code. A closing bracket has to match the innermost open
one. -/
def bracket (opened : List Char) (c : Char) : Option (List Char) :=
  if c = '(' ∨ c = '{' then some (c :: opened)
  else if c = ')' then if opened.head? = some '(' then some opened.tail else none
  else if c = '}' then if opened.head? = some '{' then some opened.tail else none
  else some opened

/-- The scan after one more character. A literal must not hold a line break, nor a dollar without a
backslash. -/
def Scan.step (s : Scan) (c : Char) : Option Scan :=
  match s.zone with
  | .code =>
    if c = '"' then some { s with zone := .literal false }
    else if c = backquote then some { s with zone := .name }
    else (bracket s.opened c).map fun opened => { s with opened }
  | .literal escaped =>
    if c = '\n' ∨ c = '\r' then none
    else if escaped then some { s with zone := .literal false }
    else if c = '$' then none
    else if c = '"' then some { s with zone := .code }
    else if c = '\\' then some { s with zone := .literal true }
    else some s
  | .name => if c = backquote then some { s with zone := .code } else some s

def scan (s : Scan) (cs : List Char) : Option Scan :=
  cs.foldlM Scan.step s

private theorem scan_append (s : Scan) (a b : List Char) :
    scan s (a ++ b) = (scan s a).bind (scan · b) :=
  List.foldlM_append

/-- Brackets outside of those that a bracket closes make no difference to it. -/
theorem bracket_frame {opened opened' : List Char} {c : Char} (h : bracket opened c = some opened')
    (outer : List Char) : bracket (opened ++ outer) c = some (opened' ++ outer) := by
  have hclose {o : Char} (hopen : opened.head? = some o) :
      (opened ++ outer).head? = some o ∧ (opened ++ outer).tail = opened.tail ++ outer := by
    obtain ⟨others, rfl⟩ := List.head?_eq_some_iff.mp hopen
    exact ⟨rfl, rfl⟩
  unfold bracket at h ⊢
  split_ifs at h with hc hround hopen hcurly hopen <;> obtain rfl := Option.some.inj h
  · simp [hc]
  · simp [hround, hclose hopen]
  · simp [hcurly, hclose hopen]
  · simp [hc, hround, hcurly]

private theorem step_frame {s s' : Scan} {c : Char} (h : s.step c = some s') (outer : List Char) :
    Scan.step ⟨s.zone, s.opened ++ outer⟩ c = some ⟨s'.zone, s'.opened ++ outer⟩ := by
  obtain ⟨zone, opened⟩ := s
  cases zone with
  | code =>
    simp only [Scan.step] at h ⊢
    split_ifs at h ⊢
    · obtain rfl := Option.some.inj h
      rfl
    · obtain rfl := Option.some.inj h
      rfl
    · obtain ⟨opened', hbracket, rfl⟩ := Option.map_eq_some_iff.mp h
      simp [bracket_frame hbracket outer]
  | literal escaped =>
    simp only [Scan.step] at h ⊢
    split_ifs at h ⊢ <;> (obtain rfl := Option.some.inj h; rfl)
  | name =>
    simp only [Scan.step] at h ⊢
    split_ifs at h ⊢ <;> (obtain rfl := Option.some.inj h; rfl)

/-- Brackets that were open before a text, and that it does not close, stay open behind it. -/
theorem scan_frame {s s' : Scan} {cs : List Char} (h : scan s cs = some s') (outer : List Char) :
    scan ⟨s.zone, s.opened ++ outer⟩ cs = some ⟨s'.zone, s'.opened ++ outer⟩ := by
  induction cs generalizing s with
  | nil =>
    obtain rfl := Option.some.inj h
    rfl
  | cons c cs ih =>
    simp only [scan, List.foldlM_cons, Option.bind_eq_bind, Option.bind_eq_some_iff] at h ⊢
    obtain ⟨s₁, hc, hcs⟩ := h
    exact ⟨_, step_frame hc outer, ih hcs⟩

def Mode.zone : Mode → Zone
  | .code _ => .code
  | .literal _ => .literal false
  | .escape _ => .literal true
  | .quoted _ => .name

def Token.nest (opened : List Char) : Token → Option (List Char)
  | .sign c => bracket opened c
  | _ => some opened

def nest (opened : List Char) (tokens : List Token) : Option (List Char) :=
  tokens.foldlM Token.nest opened

private theorem nest_append (opened : List Char) (s t : List Token) :
    nest opened (s ++ t) = (nest opened s).bind (nest · t) :=
  List.foldlM_append

private theorem nest_endWord (opened word : List Char) :
    nest opened (endWord word) = some opened := by
  cases word <;> rfl

private theorem nest_signTokens (opened : List Char) (c : Char) :
    nest opened (signTokens c) = bracket opened c := by
  unfold signTokens
  split_ifs with hc
  · subst hc
    rfl
  · simp [nest, Token.nest]

private theorem step_letter {c : Char} (hc : isWordChar c = true) (opened : List Char) :
    Scan.step ⟨.code, opened⟩ c = some ⟨.code, opened⟩ := by
  have hne : ∀ d ∈ ['"', backquote, '(', ')', '{', '}'], c ≠ d := by
    rintro d hd rfl
    have hall : ['"', backquote, '(', ')', '{', '}'].all
        (fun d => d.toNat < 0x80 && !(d == '_' || d.isAlphanum)) = true := by decide
    have hspecial := List.all_eq_true.mp hall c hd
    simp only [Bool.and_eq_true, decide_eq_true_eq, Bool.not_eq_true'] at hspecial
    rw [isWordChar_of_ascii hspecial.1, hspecial.2] at hc
    exact Bool.false_ne_true hc
  simp only [List.mem_cons, List.not_mem_nil, or_false, forall_eq_or_imp, forall_eq] at hne
  simp [Scan.step, bracket, hne]

/-- A reader and a scan go through the same zones, and the scan keeps the brackets of the tokens. -/
theorem step_of_mode_step {mode next : Mode} {c : Char} {tokens : List Token}
    {opened opened' : List Char} (h : mode.step c = some (tokens, next))
    (hnest : nest opened tokens = some opened') :
    Scan.step ⟨mode.zone, opened⟩ c = some ⟨next.zone, opened'⟩ := by
  cases mode with
  | code word =>
    simp only [Mode.step] at h
    split_ifs at h with hletter hquote hback <;>
      (obtain ⟨rfl, rfl⟩ := Prod.mk.inj (Option.some.inj h))
    · obtain rfl := Option.some.inj hnest
      exact step_letter hletter opened
    · obtain rfl := Option.some.inj ((nest_endWord opened word).symm.trans hnest)
      simp [Scan.step, Mode.zone, hquote]
    · obtain rfl := Option.some.inj ((nest_endWord opened word).symm.trans hnest)
      simp [Scan.step, Mode.zone, hback, show backquote ≠ '"' by decide]
    · rw [nest_append, nest_endWord, Option.bind_some, nest_signTokens] at hnest
      simp [Scan.step, Mode.zone, hquote, hback, hnest]
  | literal value =>
    simp only [Mode.step] at h
    split_ifs at h with hquote hslash hbreak <;>
      (obtain ⟨rfl, rfl⟩ := Prod.mk.inj (Option.some.inj h);
       obtain rfl := Option.some.inj hnest)
    · simp [Scan.step, Mode.zone, hquote]
    · simp [Scan.step, Mode.zone, hslash]
    · simp only [not_or] at hbreak
      simp [Scan.step, Mode.zone, hquote, hslash, hbreak]
  | escape value =>
    obtain ⟨d, hd, heq⟩ := Option.map_eq_some_iff.mp h
    obtain ⟨rfl, rfl⟩ := Prod.mk.inj heq
    obtain rfl := Option.some.inj hnest
    have hbreak : ¬(c = '\n' ∨ c = '\r') := by
      rintro (rfl | rfl) <;> simp [unescape?] at hd
    simp [Scan.step, Mode.zone, hbreak]
  | quoted name =>
    simp only [Mode.step] at h
    split_ifs at h with hback <;>
      (obtain ⟨rfl, rfl⟩ := Prod.mk.inj (Option.some.inj h);
       obtain rfl := Option.some.inj hnest)
    · simp [Scan.step, Mode.zone, hback]
    · simp [Scan.step, Mode.zone, hback]

/-- What can be read can be scanned. -/
theorem scan_of_read {mode mode' : Mode} {cs : List Char} {tokens : List Token}
    {opened opened' : List Char} (h : read mode cs = some (tokens, mode'))
    (hnest : nest opened tokens = some opened') :
    scan ⟨mode.zone, opened⟩ cs = some ⟨mode'.zone, opened'⟩ := by
  induction cs generalizing mode tokens opened with
  | nil =>
    obtain ⟨rfl, rfl⟩ := Prod.mk.inj (Option.some.inj h)
    obtain rfl := Option.some.inj hnest
    rfl
  | cons c cs ih =>
    simp only [read, Option.bind_eq_bind, Option.bind_eq_some_iff, Option.some.injEq,
      Prod.mk.injEq, Prod.exists] at h
    obtain ⟨first, next, hc, others, last, hcs, rfl, rfl⟩ := h
    rw [nest_append, Option.bind_eq_some_iff] at hnest
    obtain ⟨opened₁, hfirst, hothers⟩ := hnest
    simp only [scan, List.foldlM_cons, step_of_mode_step hc hfirst, Option.bind_eq_bind,
      Option.bind_some]
    exact ih hcs hothers

/-- Tokens whose brackets are properly nested: the open brackets are the same before and behind
them. -/
def Nested (tokens : List Token) : Prop :=
  ∀ opened, nest opened tokens = some opened

theorem Nested.append {s t : List Token} (hs : Nested s) (ht : Nested t) : Nested (s ++ t) := by
  intro opened
  rw [nest_append, hs, Option.bind_some, ht]

private theorem additive_nested : Additive Nested :=
  ⟨fun _ => rfl, Nested.append⟩

/-- Whether a token opens or closes something. -/
def Token.isBracket : Token → Bool
  | .sign c => ['(', ')', '{', '}'].contains c
  | _ => false

@[simp] theorem isBracket_sign (c : Char) :
    (Token.sign c).isBracket = ['(', ')', '{', '}'].contains c := rfl

@[simp] theorem isBracket_text (value : List Char) : (Token.text value).isBracket = false := rfl

@[simp] theorem isBracket_wordToken (word : String) : (wordToken word).isBracket = false := rfl

@[simp] theorem isBracket_identifierToken (name : List Char) :
    (identifierToken name).isBracket = false := by
  unfold identifierToken
  split_ifs <;> rfl

private theorem nested_of_isBracket_eq_false {tokens : List Token}
    (h : ∀ t ∈ tokens, t.isBracket = false) : Nested tokens := by
  intro opened
  induction tokens with
  | nil => rfl
  | cons t tokens ih =>
    have htail := ih fun u hu => h u (by simp [hu])
    have ht : t.nest opened = some opened := by
      cases t with
      | sign c =>
        have hc : Token.isBracket (.sign c) = false := h _ (by simp)
        simp only [isBracket_sign, List.contains_eq_mem, decide_eq_false_iff_not, List.mem_cons,
          List.not_mem_nil, or_false, not_or] at hc
        simp [Token.nest, bracket, hc]
      | word | quoted | text => rfl
    simpa [nest, ht] using htail

def Matching (o c : Char) : Prop :=
  ∀ opened, bracket opened o = some (o :: opened) ∧ bracket (o :: opened) c = some opened

private theorem matching_round : Matching '(' ')' := fun _ => ⟨rfl, rfl⟩

private theorem matching_curly : Matching '{' '}' := fun _ => ⟨rfl, rfl⟩

theorem Nested.enclosed {tokens : List Token} (h : Nested tokens) {o c : Char}
    (hpair : Matching o c) : Nested (.sign o :: tokens ++ [.sign c]) := by
  intro opened
  have hopen : nest opened [.sign o] = some (o :: opened) := by
    simp [nest, Token.nest, (hpair opened).1]
  have hclose : nest (o :: opened) [.sign c] = some opened := by
    simp [nest, Token.nest, (hpair opened).2]
  rw [List.cons_append, ← List.singleton_append, nest_append, hopen, Option.bind_some, nest_append,
    h, Option.bind_some, hclose]

private theorem nested_feed : Nested [.sign '\n'] :=
  nested_of_isBracket_eq_false (by decide)

/-- Lines between a line that opens a bracket and the bracket that closes it. -/
theorem nested_block {start : List Token} {lines : List TokenLine} {o c : Char}
    (hstart : Nested start) (h : Nested (unlineTokens lines)) (hpair : Matching o c) :
    Nested (unlineTokens ((start ++ [.sign o]) :: lines ++ [[.sign c]])) := by
  have hblock := hstart.append (((nested_feed.append h).enclosed hpair).append nested_feed)
  simpa using hblock

private theorem nested_listTokens (texts : List String) : Nested (listTokens texts) := by
  cases texts with
  | nil =>
    have hname : Nested [wordToken "emptyList", .sign '<', wordToken "String", .sign '>'] :=
      nested_of_isBracket_eq_false (by decide)
    exact hname.append (additive_nested.nil.enclosed matching_round)
  | cons first others =>
    have hitems : Nested (.text first.toList ::
        others.flatMap fun text => [.sign ',', .text text.toList]) :=
      nested_of_isBracket_eq_false (by simp +contextual [or_imp])
    have hname : Nested [wordToken "listOf"] := nested_of_isBracket_eq_false (by decide)
    exact hname.append (hitems.enclosed matching_round)

private theorem nested_versionTokens (v : Version) : Nested (unlineTokens (versionTokens v)) := by
  have hcomma : Nested [.sign ','] := nested_of_isBracket_eq_false (by decide)
  have htext (text : List Char) : Nested [.text text, .sign ','] :=
    nested_of_isBracket_eq_false (by simp)
  have hnull : Nested [wordToken "null"] := nested_of_isBracket_eq_false (by decide)
  apply additive_nested.unlineTokens nested_feed
  simp only [versionTokens, List.mem_cons, List.not_mem_nil, or_false, forall_eq_or_imp, forall_eq]
  exact ⟨htext _, htext _, htext _, (nested_listTokens _).append hcomma, hnull⟩

private theorem nested_dependencyTokens (v : Version) :
    Nested (unlineTokens (dependencyTokens v)) := by
  have hmutable : Nested [wordToken "DefaultMutableVersionConstraint"] :=
    nested_of_isBracket_eq_false (by decide)
  have himmutable : Nested [wordToken "DefaultImmutableVersionConstraint"] :=
    nested_of_isBracket_eq_false (by decide)
  exact nested_block hmutable (nested_block himmutable (nested_versionTokens v) matching_round)
    matching_round

private theorem nested_declarationLines {d : DeclarationTokens} (hname : d.name.isBracket = false)
    (htype : d.type.isBracket = false) (hcall : d.call.isBracket = false)
    (h : Nested (unlineTokens d.arguments)) : Nested (unlineTokens d.lines) := by
  have hstart : Nested [wordToken "val", d.name, .sign ':', d.type, .sign '=', d.call] := by
    apply nested_of_isBracket_eq_false
    simp [hname, htype, hcall]
  simp only [DeclarationTokens.lines]
  split_ifs
  · have hcalled := hstart.append ((additive_nested.nil.enclosed matching_round).append nested_feed)
    simpa using hcalled
  · exact nested_block hstart h matching_round

private theorem nested_declarationTokens (c : Catalog) (kind : SectionKind) :
    ∀ d ∈ declarationTokens c kind, Nested (unlineTokens d.lines) := by
  intro d hd
  cases kind <;> obtain ⟨entry, -, rfl⟩ := List.mem_map.mp hd <;>
    refine nested_declarationLines (isBracket_identifierToken _) rfl rfl ?_
  · exact nested_versionTokens entry.2
  · have hround : Nested [.text entry.2.group.toList, .sign ',', .text entry.2.name.toList] :=
      nested_of_isBracket_eq_false (by simp)
    have hname : Nested [wordToken "DefaultModuleIdentifier", .sign '.', wordToken "newId"] :=
      nested_of_isBracket_eq_false (by decide)
    have hfeed : Nested [.sign ',', .sign '\n'] := nested_of_isBracket_eq_false (by decide)
    have hline := hname.append ((hround.enclosed matching_round).append hfeed)
    have hlines := hline.append (nested_dependencyTokens entry.2.version)
    simpa [libraryDeclarationTokens, libraryTokens] using hlines
  · exact additive_nested.nil
  · have hline : Nested [.text entry.2.id.toList, .sign ',', .sign '\n'] :=
      nested_of_isBracket_eq_false (by simp)
    have hlines := hline.append (nested_dependencyTokens entry.2.version)
    simpa [pluginDeclarationTokens, pluginTokens] using hlines

private theorem nested_statementTokens (bundle library : List Char) :
    Nested (statementTokens (identifierToken bundle) (identifierToken library)) := by
  have hcall : Nested [wordToken "Bundles", .sign '.', identifierToken bundle, .sign '.',
      wordToken "add"] := nested_of_isBracket_eq_false (by simp)
  have hargument : Nested [wordToken "Libraries", .sign '.', identifierToken library] :=
    nested_of_isBracket_eq_false (by simp)
  exact hcall.append (hargument.enclosed matching_round)

private theorem nested_bundleBlockTokens (bundles : List (String × Bundle)) :
    Nested (unlineTokens (bundleBlockTokens bundles)) := by
  have hinit : Nested [wordToken "init"] := nested_of_isBracket_eq_false (by decide)
  refine nested_block hinit (additive_nested.intercalate nested_feed ?_) matching_curly
  simp only [List.mem_map]
  rintro group ⟨entry, -, rfl⟩
  apply additive_nested.unlineTokens nested_feed
  intro line hline
  obtain ⟨library, -, rfl⟩ := List.mem_map.mp hline
  exact nested_statementTokens _ _

private theorem nested_memberTokens (c : Catalog) (kind : SectionKind) :
    Nested (unlineTokens (memberTokens (declarationTokens c kind))) := by
  rw [memberTokens, unlineTokens_flatMap]
  apply additive_nested.flatMap
  intro d hd
  have hstatic : Nested [.sign '\n', .sign '@', wordToken "JvmStatic", .sign '\n'] :=
    nested_of_isBracket_eq_false (by decide)
  have hmember := hstatic.append (nested_declarationTokens c kind d hd)
  simpa using hmember

private theorem nested_closingTokens (c : Catalog) (kind : SectionKind) :
    Nested (unlineTokens (closingTokens c kind)) := by
  cases kind with
  | bundles =>
    have hblock := nested_feed.append
      (nested_bundleBlockTokens (liveEntries Bundle.isEmpty c.bundles))
    simpa [closingTokens] using hblock
  | versions | libraries | plugins => exact additive_nested.nil

private theorem nested_objectTokens (c : Catalog) (kind : SectionKind) :
    Nested (unlineTokens (objectTokens c kind)) := by
  have hname : Nested [wordToken "object", wordToken (objectName kind)] :=
    nested_of_isBracket_eq_false (by simp)
  have hbody := (nested_memberTokens c kind).append (nested_closingTokens c kind)
  rw [← unlineTokens_append] at hbody
  exact nested_block hname hbody matching_curly

private theorem nested_headTokens (options : Options) : Nested (headTokens options) := by
  have hname : Nested [wordToken "class", identifierToken options.typeName.toList,
      wordToken "private", wordToken "constructor"] := nested_of_isBracket_eq_false (by simp)
  exact hname.append (additive_nested.nil.enclosed matching_round)

private theorem nested_bodyTokens (c : Catalog) : Nested (bodyTokens c) := by
  have hobjects : Nested (unlineTokens
      ((shownKinds c).flatMap fun kind => [] :: objectTokens c kind)) := by
    rw [unlineTokens_flatMap]
    refine additive_nested.flatMap fun kind _ => ?_
    have hobject := nested_feed.append (nested_objectTokens c kind)
    simpa using hobject
  exact nested_feed.append hobjects

/-- A text of whole tokens with nested brackets is scanned from code to code, and the brackets that
are open stay the same. -/
theorem scan_of_nested {text : List Char} {tokens : List Token} (h : Reads text tokens)
    (hnested : Nested tokens) (opened : List Char) :
    scan ⟨.code, opened⟩ text = some ⟨.code, opened⟩ :=
  scan_of_read h (hnested opened)

private theorem scan_of_prefix {s s' : Scan} {part text : List Char} (hpart : part <+: text)
    (h : scan s text = some s') : ∃ s₁, scan s part = some s₁ := by
  obtain ⟨rest, rfl⟩ := hpart
  rw [scan_append, Option.bind_eq_some_iff] at h
  obtain ⟨s₁, hs₁, -⟩ := h
  exact ⟨s₁, hs₁⟩

/-- The class of a catalog is closed by its last brace and by nothing before: from its opening brace
on, whatever the catalog says, that brace stays the outermost open bracket until the last one
closes it, and the scan, which refuses raw line breaks and dollars in literals, ends in code. -/
theorem class_stays_open (c : Catalog) (options : Options) (h : source c options ≠ "") :
    source c options = preamble c options ++ classText c options ∧
    (classText c options).toList =
      (classHead options).toList ++ '{' :: (classBody c).toList ++ ['}', '\n'] ∧
    scan {} (classHead options).toList = some {} ∧
    (∀ part, part <+: (classBody c).toList → ∃ zone opened,
      scan {} ((classHead options).toList ++ '{' :: part) = some ⟨zone, opened ++ ['{']⟩) ∧
    scan {} ((classHead options).toList ++ '{' :: (classBody c).toList) = some ⟨.code, ['{']⟩ ∧
    scan {} (classText c options).toList = some {} := by
  have hkinds : shownKinds c ≠ [] := mt source_eq_empty_iff.mpr h
  have htext : (classText c options).toList =
      (classHead options).toList ++ '{' :: (classBody c).toList ++ ['}', '\n'] := by
    simp [classText_eq hkinds options]
  have hhead := scan_of_nested (reads_classHead options) (nested_headTokens options)
  have hbody := scan_of_nested (reads_classBody c) (nested_bodyTokens c)
  -- behind the head and its brace a scan goes on as if the body stood alone
  have hinside (part : List Char) : scan {} ((classHead options).toList ++ '{' :: part) =
      scan ⟨.code, ['{']⟩ part := by
    rw [scan_append, hhead []]
    rfl
  refine ⟨?_, htext, hhead [], ?_, ?_, ?_⟩
  · have hobjects : objects c ≠ [] := by simpa [objects_eq_map] using hkinds
    simp [source, hobjects]
  · intro part hpart
    obtain ⟨s, hs⟩ := scan_of_prefix hpart (hbody [])
    have hframe := scan_frame hs ['{']
    exact ⟨s.zone, s.opened, (hinside part).trans hframe⟩
  · rw [hinside, hbody]
  · rw [htext, scan_append, hinside, hbody]
    rfl

/-- A catalog whose texts are full of signs that mean something in a source. -/
def hostileCatalog : Catalog where
  versions :=
    ⟨[("a`\x7d\"", { required := "\"\x7d\n$\x7bx\x7d\\", rejected := ["`", "\\\")"] })]⟩
  libraries :=
    ⟨[("val", { group := "\", \")\x7d", name := "\r\\", version := { strict := "(" } })]⟩
  plugins := ⟨[("", { id := "//", version := {} })]⟩
  bundles := ⟨[("\n\x7d\x7d", { libraries := ["`)\x7d", "$"] })]⟩

def hostileOptions : Options where
  package := "a"
  typeName := "`\x7d\x7b"
  version := "*/ \x7d"
  year := 0

theorem hostileCatalog_stays_open :
    source hostileCatalog hostileOptions ≠ "" ∧
    scan {} (classText hostileCatalog hostileOptions).toList = some {} := by
  have hsource : source hostileCatalog hostileOptions ≠ "" :=
    mt source_eq_empty_iff.mp (by decide)
  obtain ⟨-, -, -, -, -, hscan⟩ := class_stays_open hostileCatalog hostileOptions hsource
  exact ⟨hsource, hscan⟩

end VersionCatalog.Kotlin
