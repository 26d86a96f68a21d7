import Mathlib.Tactic.SplitIfs
import VersionCatalog.Kotlin.Identifier
import VersionCatalog.Kotlin.Quoted

namespace VersionCatalog.Kotlin

/-- A token: a word or an identifier without quotes, an identifier between backquotes, a string
literal by its text, or any other character of code. Blanks between tokens are dropped; line feeds
are not. -/
inductive Token where
  | word (letters : List Char)
  | quoted (name : List Char)
  | text (value : List Char)
  | sign (c : Char)
  deriving DecidableEq, Repr

/-- Where a reader stands: in code, with the letters of a word that has not ended yet; in a string
literal with the text so far, perhaps right after a backslash; or in an identifier between
backquotes. -/
inductive Mode where
  | code (word : List Char)
  | literal (value : List Char)
  | escape (value : List Char)
  | quoted (name : List Char)
  deriving DecidableEq, Repr

def unescape? (c : Char) : Option Char :=
  if c = '\\' ∨ c = '"' ∨ c = '$' then some c
  else if c = 'n' then some '\n'
  else if c = 'r' then some '\r'
  else if c = 't' then some '\t'
  else none

def endWord : List Char → List Token
  | [] => []
  | letters => [.word letters]

/-- The tokens of a character that stands in code and belongs to no word. -/
def signTokens (c : Char) : List Token :=
  if c = ' ' then [] else [.sign c]

/-- One more character: the tokens that it completes, and where the reader stands after it. There is
no reading if a literal holds a line break or the dollar of a template. -/
def Mode.step : Mode → Char → Option (List Token × Mode)
  | .code word, c =>
    if isWordChar c then some ([], .code (word ++ [c]))
    else if c = '"' then some (endWord word, .literal [])
    else if c = backquote then some (endWord word, .quoted [])
    else some (endWord word ++ signTokens c, .code [])
  | .literal value, c =>
    if c = '"' then some ([.text value], .code [])
    else if c = '\\' then some ([], .escape value)
    else if c = '\n' ∨ c = '\r' ∨ c = '$' then none
    else some ([], .literal (value ++ [c]))
  | .escape value, c => (unescape? c).map fun d => ([], .literal (value ++ [d]))
  | .quoted name, c =>
    if c = backquote then some ([.quoted name], .code [])
    else some ([], .quoted (name ++ [c]))

/-- The tokens of a text, and where the reader stands at its end. -/
def read : Mode → List Char → Option (List Token × Mode)
  | mode, [] => some ([], mode)
  | mode, c :: cs => do
    let (first, mode) ← mode.step c
    let (others, mode) ← read mode cs
    some (first ++ others, mode)

/-- A text of whole tokens: read from code it leads back to code, with no word open. -/
def Reads (text : List Char) (tokens : List Token) : Prop :=
  read (.code []) text = some (tokens, .code [])

instance (text : List Char) (tokens : List Token) : Decidable (Reads text tokens) :=
  inferInstanceAs (Decidable (_ = _))

private theorem read_append {mode mode₁ mode₂ : Mode} {a b : List Char} {s t : List Token}
    (ha : read mode a = some (s, mode₁)) (hb : read mode₁ b = some (t, mode₂)) :
    read mode (a ++ b) = some (s ++ t, mode₂) := by
  induction a generalizing mode s with
  | nil =>
    simp only [read, Option.some.injEq, Prod.mk.injEq] at ha
    obtain ⟨rfl, rfl⟩ := ha
    exact hb
  | cons c cs ih =>
    simp only [read, Option.bind_eq_bind, Option.bind_eq_some_iff, Option.some.injEq,
      Prod.mk.injEq, Prod.exists] at ha
    obtain ⟨first, next, hc, others, last, hcs, rfl, rfl⟩ := ha
    simp [read, hc, ih hcs]

theorem Reads.append {a b : List Char} {s t : List Token} (ha : Reads a s) (hb : Reads b t) :
    Reads (a ++ b) (s ++ t) :=
  read_append ha hb

theorem reads_nil : Reads [] [] := rfl

theorem Reads.unique {text : List Char} {s t : List Token} (hs : Reads text s)
    (ht : Reads text t) : s = t := by
  unfold Reads at hs ht
  rw [hs] at ht
  simpa using ht

/-- Of the ranges of letters and numbers only the first three hold ASCII characters. -/
theorem isWordChar_of_ascii {c : Char} (h : c.toNat < 0x80) :
    isWordChar c = (c == '_' || c.isAlphanum) := by
  obtain ⟨later, hranges, hlater⟩ : ∃ later, Text.alphanumericRanges =
      [(0x30, 0x39), (0x41, 0x5A), (0x61, 0x7A)] ++ later ∧ later.all (0x80 ≤ ·.1) = true :=
    ⟨Text.alphanumericRanges.drop 3, rfl, by decide +kernel⟩
  have hnone : later.any (fun range => range.1 ≤ c.toNat && c.toNat ≤ range.2) = false := by
    rw [List.any_eq_false]
    intro range hrange
    have hstart := List.all_eq_true.mp hlater range hrange
    simp only [decide_eq_true_eq, Bool.and_eq_true, not_and, Nat.not_le] at hstart ⊢
    omega
  have hupper : c.isUpper = (decide (0x41 ≤ c.toNat) && decide (c.toNat ≤ 0x5A)) :=
    Bool.decide_and _ _
  have hlower : c.isLower = (decide (0x61 ≤ c.toNat) && decide (c.toNat ≤ 0x7A)) := rfl
  have hdigit : c.isDigit = (decide (0x30 ≤ c.toNat) && decide (c.toNat ≤ 0x39)) := rfl
  have hletter : c.isAlphanum = (c.isUpper || c.isLower || c.isDigit) := rfl
  rw [isWordChar, Text.isAlphanumeric, hranges, List.any_append, hnone, Bool.or_false, hletter,
    hupper, hlower, hdigit, Bool.or_comm _ (decide (0x30 ≤ c.toNat) && _)]
  simp only [List.any_cons, List.any_nil, Bool.or_false]

@[simp] theorem read_nil (mode : Mode) : read mode [] = some ([], mode) := rfl

@[simp] theorem endWord_nil : endWord [] = [] := rfl

@[simp] theorem endWord_cons (c : Char) (word : List Char) :
    endWord (c :: word) = [.word (c :: word)] := rfl

/-- Letters and signs of ASCII are read by simplification, without a look at the ranges. -/
@[simp] theorem read_letter {c : Char} (hascii : c.toNat < 0x80)
    (h : (c == '_' || c.isAlphanum) = true) (word cs : List Char) :
    read (.code word) (c :: cs) = read (.code (word ++ [c])) cs := by
  have hword : isWordChar c = true := (isWordChar_of_ascii hascii).trans h
  cases hcs : read (.code (word ++ [c])) cs <;> simp [read, Mode.step, hword, hcs]

@[simp] theorem read_codeSign {c : Char} (hascii : c.toNat < 0x80)
    (h : (c == '_' || c.isAlphanum) = false) (hquote : c ≠ '"') (hbackquote : c ≠ '\x60')
    (word cs : List Char) :
    read (.code word) (c :: cs) =
      (read (.code []) cs).map fun p => (endWord word ++ signTokens c ++ p.1, p.2) := by
  have hword : isWordChar c = false := (isWordChar_of_ascii hascii).trans h
  cases hcs : read (.code []) cs <;>
    simp [read, Mode.step, hword, hquote, hbackquote, backquote, hcs]

/-- A character of code outside of words, literals and quoted identifiers. -/
def IsSign (c : Char) : Prop :=
  isWordChar c = false ∧ c ≠ '"' ∧ c ≠ backquote

/-- The signs that generated code is made of, among them the blank and the line feed. -/
def codeSigns : List Char :=
  [' ', '\n', ':', '=', '(', ')', ',', '.', '@', '<', '>', '{', '}']

theorem isSign_of_mem {c : Char} (h : c ∈ codeSigns) : IsSign c := by
  have hall : codeSigns.all (fun d => d.toNat < 0x80 && !(d == '_' || d.isAlphanum) &&
      d != '"' && d != backquote) = true := by decide
  have hsign := List.all_eq_true.mp hall c h
  simp only [Bool.and_eq_true, decide_eq_true_eq, Bool.not_eq_true', bne_iff_ne] at hsign
  obtain ⟨⟨⟨hascii, hword⟩, hquote⟩, hbackquote⟩ := hsign
  exact ⟨(isWordChar_of_ascii hascii).trans hword, hquote, hbackquote⟩

private theorem read_sign {c : Char} (h : IsSign c) (word : List Char) :
    read (.code word) [c] = some (endWord word ++ signTokens c, .code []) := by
  simp [read, Mode.step, h.1, h.2.1, h.2.2]

theorem reads_sign {c : Char} (h : IsSign c) : Reads [c] (signTokens c) :=
  read_sign h []

/-- A text that is read as one token once a sign ends it. -/
def ReadsName (text : List Char) (token : Token) : Prop :=
  ∀ c, IsSign c → Reads (text ++ [c]) (token :: signTokens c)

theorem ReadsName.append {name rest : List Char} {token : Token} {tokens : List Token} {c : Char}
    (hname : ReadsName name token) (hc : IsSign c) (hrest : Reads rest tokens) :
    Reads (name ++ c :: rest) (token :: (signTokens c ++ tokens)) := by
  have hread := (hname c hc).append hrest
  simpa using hread

private theorem read_letters {letters : List Char} (h : ∀ c ∈ letters, isWordChar c = true)
    (word : List Char) : read (.code word) letters = some ([], .code (word ++ letters)) := by
  induction letters generalizing word with
  | nil => simp [read]
  | cons c cs ih =>
    have hc : isWordChar c = true := h c (by simp)
    simp [read, Mode.step, hc, ih (fun d hd => h d (by simp [hd]))]

theorem readsName_word {letters : List Char} (hne : letters ≠ [])
    (h : ∀ d ∈ letters, isWordChar d = true) : ReadsName letters (.word letters) := by
  intro c hc
  have hend : endWord letters = [.word letters] := by
    cases letters with
    | nil => exact absurd rfl hne
    | cons => rfl
  have hread := read_append (read_letters h []) (read_sign hc letters)
  simpa [Reads, hend] using hread

private theorem read_escapeChar (value : List Char) (c : Char) :
    read (.literal value) (escapeChar c) = some ([], .literal (value ++ [c])) := by
  unfold escapeChar
  by_cases hescaped : c = '\\' ∨ c = '"' ∨ c = '$' ∨ c = '\n' ∨ c = '\r' ∨ c = '\t'
  · rcases hescaped with rfl | rfl | rfl | rfl | rfl | rfl <;>
      simp [read, Mode.step, unescape?]
  · simp only [not_or] at hescaped
    obtain ⟨h₁, h₂, h₃, h₄, h₅, h₆⟩ := hescaped
    simp [read, Mode.step, h₁, h₂, h₃, h₄, h₅, h₆]

theorem read_escaped (value cs : List Char) :
    read (.literal value) (cs.flatMap escapeChar) = some ([], .literal (value ++ cs)) := by
  induction cs generalizing value with
  | nil => simp
  | cons c cs ih =>
    have hread := read_append (read_escapeChar value c) (ih (value ++ [c]))
    simpa using hread

/-- A string literal is read as the text that it was written for. -/
theorem reads_quoteChars (cs : List Char) : Reads (quoteChars cs) [.text cs] := by
  have hopen : read (.code []) ['"'] = some ([], .literal []) := by
    simp [read, Mode.step, isWordChar_of_ascii, endWord]
  have hclose : read (.literal cs) ['"'] = some ([.text cs], .code []) := by
    simp [read, Mode.step]
  have hread := read_append hopen (read_append (read_escaped [] cs) (by simpa using hclose))
  simpa [Reads, quoteChars] using hread

def identifierToken (name : List Char) : Token :=
  if isPlain (sanitize name) then .word (sanitize name) else .quoted (sanitize name)

theorem backquote_notMem_sanitize (name : List Char) : backquote ∉ sanitize name := by
  intro h
  obtain ⟨c, -, hc⟩ := List.mem_map.mp h
  split_ifs at hc with hf
  · exact absurd hc (by decide)
  · subst hc
    exact hf (by decide)

private theorem read_name {cs : List Char} (h : backquote ∉ cs) (name : List Char) :
    read (.quoted name) cs = some ([], .quoted (name ++ cs)) := by
  induction cs generalizing name with
  | nil => simp [read]
  | cons c cs ih =>
    simp only [List.mem_cons, not_or] at h
    simp [read, Mode.step, Ne.symm h.1, ih h.2]

private theorem reads_backquoted {cs : List Char} (h : backquote ∉ cs) :
    Reads (backquote :: cs ++ [backquote]) [.quoted cs] := by
  have hopen : read (.code []) [backquote] = some ([], .quoted []) := by
    simp [read, Mode.step, isWordChar_of_ascii, endWord, backquote]
  have hclose : read (.quoted cs) [backquote] = some ([.quoted cs], .code []) := by
    simp [read, Mode.step]
  have hread := read_append hopen (read_append (read_name h []) (by simpa using hclose))
  simpa [Reads] using hread

theorem isPlain_iff {name : List Char} :
    isPlain name = true ↔ name ≠ [] ∧ name.head?.any Char.isDigit = false ∧
      (∀ c ∈ name, isWordChar c = true) ∧ String.ofList name ∉ keywords := by
  simp [isPlain, and_assoc]

/-- An identifier is read as its name, whatever sign ends it. -/
theorem readsName_identifierChars (name : List Char) :
    ReadsName (identifierChars name) (identifierToken name) := by
  simp only [identifierChars, identifierToken]
  split_ifs with hp
  · obtain ⟨hne, -, hword, -⟩ := isPlain_iff.mp hp
    exact readsName_word hne hword
  · intro c hc
    exact (reads_backquoted (backquote_notMem_sanitize name)).append (reads_sign hc)

def Token.spelling : Token → List Char
  | .word letters => letters
  | .quoted name => backquote :: name ++ [backquote]
  | .text value => quoteChars value
  | .sign c => [c]

@[simp] theorem spelling_identifierToken (name : List Char) :
    (identifierToken name).spelling = identifierChars name := by
  simp only [identifierChars, identifierToken]
  split_ifs <;> rfl

end VersionCatalog.Kotlin
