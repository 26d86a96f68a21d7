import VersionCatalog.Proofs.Kotlin.Declared
import VersionCatalog.Proofs.Kotlin.Statements

namespace VersionCatalog.Kotlin

/-- Where a reader of references stands: behind the name of the object, behind the dot after it,
behind any other dot, or elsewhere. -/
inductive Trail where
  | elsewhere
  | object
  | reference
  | member
  deriving DecidableEq, Repr

def Trail.next (object : Token) (trail : Trail) (t : Token) : Trail :=
  match trail with
  | .reference | .member => .elsewhere
  | .object => if t = .sign '.' then .reference else if t = object then .object else .elsewhere
  | .elsewhere => if t = .sign '.' then .member else if t = object then .object else .elsewhere

/-- The names that tokens refer to in an object. -/
def references (object : Token) : Trail → List Token → List Token
  | _, [] => []
  | trail, t :: ts =>
    (if trail = .reference then [t] else []) ++ references object (trail.next object t) ts

/-- The names that a text refers to in an object, as they are written. -/
def referredNames (text : String) (object : String) : List String :=
  match read (.code []) text.toList with
  | some (tokens, _) => (references (wordToken object) .elsewhere tokens).map fun name =>
      String.ofList name.spelling
  | none => []

variable {object : Token}

/-- Tokens that refer to the names `found` in the object, wherever they stand. -/
def Refers (object : Token) (tokens found : List Token) : Prop :=
  ∀ rest, references object .elsewhere (tokens ++ rest) =
    found ++ references object .elsewhere rest

theorem Refers.append {a b found later : List Token} (ha : Refers object a found)
    (hb : Refers object b later) : Refers object (a ++ b) (found ++ later) := by
  intro rest
  rw [List.append_assoc, ha, hb, List.append_assoc]

private theorem refers_nil : Refers object [] [] :=
  fun _ => rfl

theorem Refers.flatMap {α : Type} {l : List α} {f g : α → List Token}
    (h : ∀ a ∈ l, Refers object (f a) (g a)) : Refers object (l.flatMap f) (l.flatMap g) := by
  induction l with
  | nil => exact refers_nil
  | cons a l ih => exact (h a (by simp)).append (ih fun b hb => h b (by simp [hb]))

private theorem additive_refers : Additive (Refers object · []) :=
  ⟨refers_nil, fun ha hb => by simpa using ha.append hb⟩

theorem Refers.intercalate {α : Type} {l : List α} {f : α → List TokenLine} {g : α → List Token}
    (hfeed : Refers object [.sign '\n'] [])
    (h : ∀ a ∈ l, Refers object (unlineTokens (f a)) (g a)) :
    Refers object (unlineTokens (List.intercalate [[]] (l.map f))) (l.flatMap g) := by
  induction l with
  | nil => exact refers_nil
  | cons a l ih =>
    have ha := h a (by simp)
    have hl := ih fun b hb => h b (by simp [hb])
    cases l with
    | nil => simpa using ha
    | cons b l =>
      have happend := ha.append (hfeed.append hl)
      simpa [List.intercalate_cons_cons] using happend

/-- A line refers to nothing if it has no dot in it. -/
theorem references_dotless {word : String} {line : TokenLine} (h : .sign '.' ∉ line) {trail : Trail}
    (htrail : trail = .elsewhere ∨ trail = .object) (rest : List Token) :
    references (wordToken word) trail (line ++ .sign '\n' :: rest) =
      references (wordToken word) .elsewhere rest := by
  induction line generalizing trail with
  | nil => rcases htrail with rfl | rfl <;> simp [references, Trail.next]
  | cons t line ih =>
    rw [List.mem_cons, not_or] at h
    have hdot : t ≠ .sign '.' := Ne.symm h.1
    have hnext : trail.next (wordToken word) t = .elsewhere ∨
        trail.next (wordToken word) t = .object := by
      rcases htrail with rfl | rfl
      · by_cases ht : t = wordToken word <;> simp [Trail.next, hdot, ht]
      · by_cases ht : t = wordToken word <;> simp [Trail.next, hdot, ht]
    have htrail' : trail ≠ .reference := by
      rcases htrail with rfl | rfl <;> decide
    simp [references, htrail', ih h.2 hnext]

private theorem refers_dotless {word : String} {line : TokenLine} (h : .sign '.' ∉ line) :
    Refers (wordToken word) (line ++ [.sign '\n']) [] := by
  intro rest
  rw [List.append_assoc]
  exact references_dotless h (.inl rfl) rest

theorem MemberLine.refers {line : TokenLine} (h : MemberLine line) :
    Refers (wordToken "Libraries") (line ++ [.sign '\n']) [] := by
  cases h with
  | coordinates group name =>
    intro rest
    simp [references, Trail.next, wordToken_inj]
  | list texts =>
    have hdot := sign_notMem_listTokens (c := '.') (by decide) texts
    exact refers_dotless (by simp [hdot])
  | _ => exact refers_dotless (by simp)

/-- A statement refers to the library that it puts into its bundle. -/
theorem refers_statementTokens (bundle library : Token) :
    Refers (wordToken "Libraries") (statementTokens bundle library ++ [.sign '\n']) [library] := by
  intro rest
  simp [statementTokens, references, Trail.next, wordToken_inj]

private theorem refers_bundleTokens (name : Token) (b : Bundle) :
    Refers (wordToken "Libraries") (unlineTokens (bundleTokens name b))
      (b.libraries.map libraryToken) := by
  have hstatements := Refers.flatMap (l := b.libraries)
    (f := fun library => statementTokens name (libraryToken library) ++ [.sign '\n'])
    fun library _ => refers_statementTokens name (libraryToken library)
  have htokens : unlineTokens (bundleTokens name b) = b.libraries.flatMap fun library =>
      statementTokens name (libraryToken library) ++ [.sign '\n'] := by
    simp [unlineTokens, bundleTokens, List.flatMap_map]
  rw [htokens, List.map_eq_flatMap]
  exact hstatements

/-- The libraries that the object of a section refers to. -/
def mentioned (c : Catalog) : SectionKind → List Token
  | .bundles => (liveEntries Bundle.isEmpty c.bundles).flatMap fun entry =>
    entry.2.libraries.map libraryToken
  | _ => []

private theorem refers_feed : Refers (wordToken "Libraries") [.sign '\n'] [] := by
  have hempty : Token.sign '.' ∉ ([] : TokenLine) := List.not_mem_nil
  exact refers_dotless hempty

private theorem refers_memberTokens (c : Catalog) (kind : SectionKind) :
    Refers (wordToken "Libraries") (unlineTokens (memberTokens (declarationTokens c kind))) [] :=
  additive_refers.flatMap fun _ hline => (memberLine_of_mem hline).refers

private theorem refers_closingTokens (c : Catalog) (kind : SectionKind) :
    Refers (wordToken "Libraries") (unlineTokens (closingTokens c kind)) (mentioned c kind) := by
  cases kind with
  | versions | libraries | plugins => exact refers_nil
  | bundles =>
    have hopen : Refers (wordToken "Libraries") ([wordToken "init", .sign '{'] ++ [.sign '\n']) [] :=
      refers_dotless (by simp)
    have hclose : Refers (wordToken "Libraries") ([.sign '}'] ++ [.sign '\n']) [] :=
      refers_dotless (by simp)
    have hstatements := Refers.intercalate (l := liveEntries Bundle.isEmpty c.bundles)
      (f := fun entry => bundleTokens (memberToken entry.1) entry.2)
      (g := fun entry => entry.2.libraries.map libraryToken) refers_feed
      fun entry _ => refers_bundleTokens (memberToken entry.1) entry.2
    have hblock := refers_feed.append (hopen.append (hstatements.append hclose))
    simpa [closingTokens, bundleBlockTokens, mentioned] using hblock

private theorem refers_objectTokens (c : Catalog) (kind : SectionKind) :
    Refers (wordToken "Libraries") (unlineTokens (objectTokens c kind)) (mentioned c kind) := by
  have hopen : Refers (wordToken "Libraries")
      ([wordToken "object", wordToken (objectName kind), .sign '{'] ++ [.sign '\n']) [] :=
    refers_dotless (by simp)
  have hclose : Refers (wordToken "Libraries") ([.sign '}'] ++ [.sign '\n']) [] :=
    refers_dotless (by simp)
  have hobject := hopen.append ((refers_memberTokens c kind).append
    ((refers_closingTokens c kind).append hclose))
  simpa [objectTokens] using hobject

private theorem mentioned_eq_nil {c : Catalog} {kind : SectionKind} (h : declarations c kind = []) :
    mentioned c kind = [] := by
  cases kind with
  | versions | libraries | plugins => rfl
  | bundles =>
    rw [declarations, List.map_eq_nil_iff] at h
    rw [mentioned, h, List.flatMap_nil]

/-- A class refers to the libraries of its bundles. -/
theorem refers_classLines (c : Catalog) (options : Options) :
    Refers (wordToken "Libraries") (unlineTokens (classLines c options)) (mentioned c .bundles) := by
  have hhead : Refers (wordToken "Libraries")
      ((headTokens options ++ [.sign '{']) ++ [.sign '\n']) [] :=
    refers_dotless (by simp [headTokens])
  have hclose : Refers (wordToken "Libraries") ([.sign '}'] ++ [.sign '\n']) [] :=
    refers_dotless (by simp)
  have hobjects := Refers.flatMap (l := shownKinds c)
    (f := fun kind => unlineTokens ([] :: objectTokens c kind)) (g := mentioned c) fun kind _ => by
      simpa using refers_feed.append (refers_objectTokens c kind)
  rw [flatMap_shownKinds fun _ => mentioned_eq_nil] at hobjects
  have hclass := hhead.append (hobjects.append hclose)
  simpa [classLines, sectionKinds, mentioned] using hclass

theorem referredNames_classText {c : Catalog} (h : shownKinds c ≠ []) (options : Options) :
    referredNames (classText c options) "Libraries" =
      (liveEntries Bundle.isEmpty c.bundles).flatMap fun entry =>
        entry.2.libraries.map identifier := by
  have hread := reads_classLines h options
  rw [Reads] at hread
  have hrefers := refers_classLines c options []
  rw [List.append_nil] at hrefers
  have hnames : (fun name => String.ofList name.spelling) ∘ libraryToken = identifier :=
    funext fun library => (identifier_eq_spelling library).symm
  rw [referredNames, hread]
  simp only [hrefers, references, List.append_nil, mentioned, List.map_flatMap, List.map_map, hnames]

end VersionCatalog.Kotlin
