import VersionCatalog.Proofs.Kotlin.Token
import VersionCatalog.Proofs.Text.Category

namespace VersionCatalog.Kotlin

/-- A name that needs no backquotes: letters, digits and underscores, the first character not a digit
of any script, not underscores alone and no keyword. -/
def IsBareName (name : List Char) : Prop :=
  name ≠ [] ∧ (∀ c ∈ name, c = '_' ∨ Text.isLetter c = true ∨ Text.isDigit c = true) ∧
    name.head?.any Text.isDigit = false ∧ (∃ c ∈ name, c ≠ '_') ∧ String.ofList name ∉ keywords

/-- A name between backquotes, on one line and without the characters that no member name holds. -/
def IsQuotedName (name : List Char) : Prop :=
  ∃ inner, name = backquote :: inner ++ [backquote] ∧ inner ≠ [] ∧
    ∀ c ∈ inner, isForbidden c = false ∧ c ≠ '\n' ∧ c ≠ '\r'

def IsValidName (name : List Char) : Prop :=
  IsBareName name ∨ IsQuotedName name

/-- A name that is written as a valid name. What the test for plain names leaves to be asked is
whether all its numbers and marks are digits, the first one is no digit, and not all of its
characters are underscores. -/
def IsNameable (name : List Char) : Prop :=
  name ≠ [] ∧ '\n' ∉ name ∧ '\r' ∉ name ∧
    (isPlain (sanitize name) = true →
      (∀ c ∈ sanitize name, c = '_' ∨ Text.isLetter c = true ∨ Text.isDigit c = true) ∧
      (sanitize name).head?.any Text.isDigit = false ∧ ∃ c ∈ sanitize name, c ≠ '_')

instance (name : List Char) : Decidable (IsNameable name) :=
  inferInstanceAs (Decidable (_ ∧ _ ∧ _ ∧ (_ → _)))

variable {name : List Char} {c : Char}

private theorem isForbidden_of_mem_sanitize (h : c ∈ sanitize name) : isForbidden c = false := by
  obtain ⟨d, -, rfl⟩ := List.mem_map.mp h
  split_ifs with hd
  · decide
  · simpa using hd

/-- A character stays if it is not forbidden, and only underscores are new. -/
theorem mem_sanitize_iff (hc : isForbidden c = false) (hne : c ≠ '_') :
    c ∈ sanitize name ↔ c ∈ name := by
  rw [sanitize, List.mem_map]
  constructor
  · rintro ⟨d, hd, hdc⟩
    split_ifs at hdc
    · exact absurd hdc.symm hne
    · exact hdc ▸ hd
  · intro hmem
    exact ⟨c, hmem, by simp [hc]⟩

private theorem sanitize_eq_nil_iff : sanitize name = [] ↔ name = [] := by
  rw [sanitize, List.map_eq_nil_iff]

private theorem feed_mem_sanitize_iff : '\n' ∈ sanitize name ↔ '\n' ∈ name :=
  mem_sanitize_iff (by decide) (by decide)

private theorem return_mem_sanitize_iff : '\r' ∈ sanitize name ↔ '\r' ∈ name :=
  mem_sanitize_iff (by decide) (by decide)

/-- A plain name has its numbers, marks and underscores left to be asked about. -/
theorem isBareName_iff_of_isPlain (h : isPlain name = true) :
    IsBareName name ↔
      (∀ c ∈ name, c = '_' ∨ Text.isLetter c = true ∨ Text.isDigit c = true) ∧
      name.head?.any Text.isDigit = false ∧ ∃ c ∈ name, c ≠ '_' := by
  obtain ⟨hne, -, -, hkeyword⟩ := isPlain_iff.mp h
  simp [IsBareName, hne, hkeyword]

/-- No line ends in a plain name. -/
theorem notMem_of_isPlain (h : isPlain name = true) (hc : isWordChar c = false) : c ∉ name := by
  obtain ⟨-, -, hword, -⟩ := isPlain_iff.mp h
  intro hmem
  simp [hword c hmem] at hc

private theorem not_isBareName_of_mem (h : backquote ∈ name) : ¬ IsBareName name := by
  rintro ⟨-, hall, -⟩
  have hbackquote : ¬ (backquote = '_' ∨ Text.isLetter backquote = true ∨
      Text.isDigit backquote = true) := by decide +kernel
  exact hbackquote (hall backquote h)

private theorem isQuotedName_iff {inner : List Char} :
    IsQuotedName (backquote :: inner ++ [backquote]) ↔
      inner ≠ [] ∧ ∀ c ∈ inner, isForbidden c = false ∧ c ≠ '\n' ∧ c ≠ '\r' := by
  constructor
  · rintro ⟨other, hsame, hne, hall⟩
    obtain rfl : inner = other := by simpa using hsame
    exact ⟨hne, hall⟩
  · rintro ⟨hne, hall⟩
    exact ⟨inner, rfl, hne, hall⟩

/-- Between backquotes only line breaks are left to be asked about. -/
theorem isQuotedName_sanitize_iff :
    IsQuotedName (backquote :: sanitize name ++ [backquote]) ↔
      name ≠ [] ∧ '\n' ∉ name ∧ '\r' ∉ name := by
  rw [isQuotedName_iff, ne_eq, sanitize_eq_nil_iff, ← feed_mem_sanitize_iff,
    ← return_mem_sanitize_iff]
  refine and_congr_right fun _ => ⟨fun hall => ⟨?_, ?_⟩, fun hline c hc => ⟨?_, ?_, ?_⟩⟩
  · exact fun hfeed => (hall _ hfeed).2.1 rfl
  · exact fun hreturn => (hall _ hreturn).2.2 rfl
  · exact isForbidden_of_mem_sanitize hc
  · exact ne_of_mem_of_not_mem hc hline.1
  · exact ne_of_mem_of_not_mem hc hline.2

theorem isValidName_identifierChars_iff :
    IsValidName (identifierChars name) ↔ IsNameable name := by
  cases hplain : isPlain (sanitize name) with
  | true =>
    have hchars : identifierChars name = sanitize name := by simp [identifierChars, hplain]
    have hquoted : ¬ IsQuotedName (sanitize name) := by
      rintro ⟨inner, hinner, -⟩
      exact backquote_notMem_sanitize name (by simp [hinner])
    have hne : name ≠ [] := mt sanitize_eq_nil_iff.mpr (isPlain_iff.mp hplain).1
    have hfeed : '\n' ∉ name :=
      mt feed_mem_sanitize_iff.mpr (notMem_of_isPlain hplain (isSign_of_mem (by decide)).1)
    have hreturn : '\r' ∉ name :=
      mt return_mem_sanitize_iff.mpr (notMem_of_isPlain hplain (isWordChar_of_ascii (by decide)))
    rw [hchars, IsValidName, or_iff_left hquoted, isBareName_iff_of_isPlain hplain, IsNameable]
    simp [hne, hfeed, hreturn, hplain]
  | false =>
    have hchars : identifierChars name = backquote :: sanitize name ++ [backquote] := by
      simp [identifierChars, hplain]
    have hbare : ¬ IsBareName (backquote :: sanitize name ++ [backquote]) :=
      not_isBareName_of_mem (by simp)
    rw [hchars, IsValidName, or_iff_right hbare, isQuotedName_sanitize_iff, IsNameable]
    simp [hplain]

/-- A name that begins with a digit is quoted, and so it is valid. -/
example : IsNameable ['1', 's', 't'] := by decide

end VersionCatalog.Kotlin
