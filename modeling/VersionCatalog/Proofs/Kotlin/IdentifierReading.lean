import Mathlib.Data.List.Forall2
import Mathlib.Data.List.TakeDrop
import VersionCatalog.Proofs.Kotlin.Token

namespace VersionCatalog.Kotlin

variable {name other rest later word inner : List Char}

/-- The identifier that a text begins with, and what follows it. If it begins with a backquote it
goes on to the next one, and otherwise as far as there are word characters. -/
def identifier? : List Char → Option (String × List Char)
  | [] => none
  | c :: cs =>
    if c = backquote then
      match cs.span (· != backquote) with
      | (_, []) => none
      | (inner, closing :: rest) => some (String.ofList (c :: inner ++ [closing]), rest)
    else if isWordChar c then
      some (String.ofList ((c :: cs).span isWordChar).1, ((c :: cs).span isWordChar).2)
    else none

/-- A text in which no word goes on: it is empty or begins with neither a letter, a number nor an
underscore. -/
def EndsWord (text : List Char) : Prop :=
  ∀ c ∈ text.head?, isWordChar c = false

/-- Characters that stand for the same one in identifiers: each is an underscore or becomes one,
unless they are the same. -/
def AlikeInNames (c d : Char) : Prop :=
  c = d ∨ (c = '_' ∨ isForbidden c = true) ∧ (d = '_' ∨ isForbidden d = true)

private theorem isWordChar_backquote : isWordChar backquote = false :=
  isWordChar_of_ascii (by decide)

/-- In the code of a source each sign ends the word before it. -/
theorem IsSign.endsWord {c : Char} (h : IsSign c) (text : List Char) : EndsWord (c :: text) := by
  rintro d ⟨rfl⟩
  exact h.1

/-- What an identifier is written for is found by leaving its backquotes out. -/
theorem filter_identifierChars (name : List Char) :
    (identifierChars name).filter (· != backquote) = sanitize name := by
  have hkeep : (sanitize name).filter (· != backquote) = sanitize name :=
    List.filter_eq_self.mpr fun c hc =>
      bne_iff_ne.mpr (ne_of_mem_of_not_mem hc (backquote_notMem_sanitize name))
  rw [identifierChars]
  split_ifs
  · exact hkeep
  · simp [hkeep]

theorem identifierChars_eq_iff :
    identifierChars name = identifierChars other ↔ sanitize name = sanitize other := by
  constructor
  · intro h
    rw [← filter_identifierChars name, h, filter_identifierChars]
  · intro h
    rw [identifierChars, identifierChars, h]

private theorem alikeInNames_iff {c d : Char} :
    (if isForbidden c then '_' else c) = (if isForbidden d then '_' else d) ↔ AlikeInNames c d := by
  rw [AlikeInNames]
  split_ifs with hc hd hd
  · simp [hc, hd]
  · have hne : c ≠ d := ne_of_apply_ne isForbidden (by simp [hc, hd])
    simp [hc, hd, hne, eq_comm]
  · have hne : c ≠ d := ne_of_apply_ne isForbidden (by simp [hc, hd])
    simp [hc, hd, hne]
  · simp only [hc, hd, or_false, Bool.false_eq_true]
    exact ⟨.inl, fun h => h.elim id fun hboth => hboth.1.trans hboth.2.symm⟩

private theorem sanitize_eq_iff :
    sanitize name = sanitize other ↔ List.Forall₂ AlikeInNames name other := by
  rw [sanitize, sanitize, ← List.forall₂_eq_eq_eq, List.forall₂_map_left_iff,
    List.forall₂_map_right_iff]
  simp only [alikeInNames_iff]

private theorem span_append {p : Char → Bool} (hword : ∀ c ∈ word, p c = true)
    (hrest : ∀ c ∈ rest.head?, p c = false) : (word ++ rest).span p = (word, rest) := by
  have hstop : rest.takeWhile p = [] ∧ rest.dropWhile p = rest := by
    cases rest with
    | nil => exact ⟨rfl, rfl⟩
    | cons c cs => simp [hrest c rfl]
  rw [List.span_eq_takeWhile_dropWhile, List.takeWhile_append_of_pos hword,
    List.dropWhile_append_of_pos hword, hstop.1, hstop.2, List.append_nil]

private theorem identifier?_quoted (h : backquote ∉ inner) (rest : List Char) :
    identifier? (backquote :: inner ++ backquote :: rest) =
      some (String.ofList (backquote :: inner ++ [backquote]), rest) := by
  have hspan : (inner ++ backquote :: rest).span (· != backquote) = (inner, backquote :: rest) :=
    span_append (fun c hc => bne_iff_ne.mpr (ne_of_mem_of_not_mem hc h)) (by simp)
  rw [List.cons_append, identifier?, if_pos rfl, hspan]

private theorem identifier?_word (hne : word ≠ []) (hword : ∀ c ∈ word, isWordChar c = true)
    (hrest : EndsWord rest) : identifier? (word ++ rest) = some (String.ofList word, rest) := by
  have hspan : (word ++ rest).span isWordChar = (word, rest) := span_append hword hrest
  obtain ⟨c, cs, rfl⟩ := List.exists_cons_of_ne_nil hne
  have hc : isWordChar c = true := hword c List.mem_cons_self
  have hbackquote : c ≠ backquote := by
    rintro rfl
    simp [isWordChar_backquote] at hc
  rw [List.cons_append, identifier?, if_neg hbackquote, if_pos hc, ← List.cons_append, hspan]

private theorem identifier?_identifier (name : String) (h : EndsWord rest) :
    identifier? ((identifier name).toList ++ rest) = some (identifier name, rest) := by
  rw [toList_identifier, identifier, identifierChars]
  split_ifs with hplain
  · obtain ⟨hne, -, hword, -⟩ := isPlain_iff.mp hplain
    exact identifier?_word hne hword h
  · have hquoted := identifier?_quoted (backquote_notMem_sanitize name.toList) rest
    simpa using hquoted

/-- A word that goes on is taken for a longer identifier. -/
example : identifier? ((identifier "a").toList ++ ['b']) = some ("ab", []) := by decide

/-- Identifiers tell names apart, and can be told from what follows them. Names have the same
identifier just if they are the same once underscores are put for the forbidden characters, that is,
if they differ in such characters and underscores only. An identifier in front of a text in which no
word goes on is read back and leaves that text, so no other identifier and text make the same code. -/
theorem identifiers_are_told_apart :
    (∀ name other : String,
      identifier name = identifier other ↔ sanitize name.toList = sanitize other.toList) ∧
    (∀ name other : String, sanitize name.toList = sanitize other.toList ↔
      List.Forall₂ AlikeInNames name.toList other.toList) ∧
    (∀ (name : String) (rest : List Char), EndsWord rest →
      identifier? ((identifier name).toList ++ rest) = some (identifier name, rest)) ∧
    ∀ (name other : String) (rest later : List Char), EndsWord rest → EndsWord later →
      (identifier name).toList ++ rest = (identifier other).toList ++ later →
      identifier name = identifier other ∧ rest = later := by
  refine ⟨fun name other => ?_, fun name other => sanitize_eq_iff,
    fun name rest h => identifier?_identifier name h, ?_⟩
  · rw [← String.toList_inj, toList_identifier, toList_identifier]
    exact identifierChars_eq_iff
  · -- the same code is read as both identifiers, and there is one reading only
    intro name other rest later hrest hlater hcode
    have hread := identifier?_identifier name hrest
    rw [hcode, identifier?_identifier other hlater] at hread
    obtain ⟨hname, htext⟩ := Prod.mk.inj (Option.some.inj hread)
    exact ⟨hname.symm, htext.symm⟩

/-- Two numbers of a version with the same identifier, another one with its own, and a keyword in
front of a type. -/
theorem keyword_is_told_apart :
    identifier "1.0" = identifier "1_0" ∧ identifier "1.0" ≠ identifier "10" ∧
    EndsWord [':', ' ', 'T'] ∧
    identifier? ((identifier "in").toList ++ [':', ' ', 'T']) =
      some ("\x60in\x60", [':', ' ', 'T']) ∧
    (identifier "1.0").toList ++ [':', ' ', 'T'] = (identifier "1_0").toList ++ [':', ' ', 'T'] ∧
    identifier "1.0" = identifier "1_0" := by
  obtain ⟨hsame, -, hread, hapart⟩ := identifiers_are_told_apart
  have hname : identifier "1.0" = identifier "1_0" := (hsame "1.0" "1_0").mpr (by decide)
  have hother : identifier "1.0" ≠ identifier "10" := (hsame "1.0" "10").not.mpr (by decide)
  have hin : identifier "in" = "\x60in\x60" := by decide
  have hends : EndsWord [':', ' ', 'T'] := (isSign_of_mem (by decide)).endsWord [' ', 'T']
  have hcode : (identifier "1.0").toList ++ [':', ' ', 'T'] =
      (identifier "1_0").toList ++ [':', ' ', 'T'] := by rw [hname]
  have hkeyword := hread "in" [':', ' ', 'T'] hends
  rw [hin] at hkeyword ⊢
  exact ⟨hname, hother, hends, hkeyword, hcode, (hapart "1.0" "1_0" _ _ hends hends hcode).1⟩

end VersionCatalog.Kotlin
