import Mathlib.Tactic.SplitIfs
import VersionCatalog.Toml.Value

namespace VersionCatalog.Toml

/-- The control characters, which a writer escapes. -/
def isControl (c : Char) : Bool :=
  c.toNat < 0x20 || (0x7F ≤ c.toNat && c.toNat < 0xA0)

def writeChar (c : Char) : List Char :=
  if c = '"' ∨ c = '\\' then ['\\', c]
  else if isControl c then
    ['\\', 'u', '0', '0', Nat.digitChar (c.toNat / 16), Nat.digitChar (c.toNat % 16)]
  else [c]

def writeChars (text : List Char) : List Char :=
  text.flatMap writeChar

def basicString (text : String) : List Char :=
  '"' :: writeChars text.toList ++ ['"']

private theorem toNat_lt_of_isControl {c : Char} (h : isControl c = true) : c.toNat < 0x100 := by
  simp only [isControl, Bool.or_eq_true, Bool.and_eq_true, decide_eq_true_eq] at h
  omega

private theorem hexDigit_digitChar {n : Nat} (h : n < 16) :
    hexDigit? (Nat.digitChar n) = some n := by
  have hall : ∀ n < 16, hexDigit? (Nat.digitChar n) = some n := by decide
  exact hall n h

/-- Digits neither close a string nor start an escape. -/
theorem digitChar_ne {n : Nat} (h : n < 16) :
    Nat.digitChar n ≠ '"' ∧ Nat.digitChar n ≠ '\\' := by
  have hall : ∀ n < 16, Nat.digitChar n ≠ '"' ∧ Nat.digitChar n ≠ '\\' := by decide
  exact hall n h

private theorem scalar?_digits {c : Char} (h : c.toNat < 0x100) :
    scalar? ['0', '0', Nat.digitChar (c.toNat / 16), Nat.digitChar (c.toNat % 16)] = some c := by
  have hzero : hexDigit? '0' = some 0 := by decide
  have hhigh := hexDigit_digitChar (n := c.toNat / 16) (by omega)
  have hlow := hexDigit_digitChar (n := c.toNat % 16) (by omega)
  have hvalue : 16 * (c.toNat / 16) + c.toNat % 16 = c.toNat := by omega
  have hvalid : c.toNat.isValidChar := c.valid
  simp [scalar?, hzero, hhigh, hlow, hvalue, hvalid, Char.ofNat_toNat]

/-- The search for the closing quote of a basic string. -/
def spanBasic (cs : List Char) : Option (List Char × List Char) :=
  spanQuoted (closing? '"') true false cs

private theorem spanBasic_cons {c : Char} (h : c ≠ '"' ∧ c ≠ '\\') (rest : List Char) :
    spanBasic (c :: rest) = (spanBasic rest).map fun p => (c :: p.1, p.2) := by
  have hslash : (c == '\\') = false := beq_eq_false_iff_ne.mpr h.2
  rw [spanBasic, spanQuoted]
  cases hrest : spanBasic rest <;>
    (rw [spanBasic] at hrest; simp [closing?, h.1, hslash, hrest])

/-- The character after a backslash never closes a string. -/
theorem spanBasic_escape (c : Char) (rest : List Char) :
    spanBasic ('\\' :: c :: rest) = (spanBasic rest).map fun p => ('\\' :: c :: p.1, p.2) := by
  rw [spanBasic, spanQuoted, spanQuoted]
  cases hrest : spanBasic rest <;> (rw [spanBasic] at hrest; simp [closing?, hrest])

private theorem spanBasic_writeChar (c : Char) (rest : List Char) :
    spanBasic (writeChar c ++ rest) =
      (spanBasic rest).map fun p => (writeChar c ++ p.1, p.2) := by
  unfold writeChar
  split_ifs with hspecial hcontrol
  · exact spanBasic_escape c rest
  · have hbound := toNat_lt_of_isControl hcontrol
    have hhigh := digitChar_ne (n := c.toNat / 16) (by omega)
    have hlow := digitChar_ne (n := c.toNat % 16) (by omega)
    have hzero : '0' ≠ '"' ∧ '0' ≠ '\\' := by decide
    simp only [List.cons_append, List.nil_append]
    rw [spanBasic_escape, spanBasic_cons hzero, spanBasic_cons hzero, spanBasic_cons hhigh,
      spanBasic_cons hlow]
    simp [Function.comp_def]
  · rw [not_or] at hspecial
    exact spanBasic_cons hspecial rest

private theorem spanBasic_writeChars (text rest : List Char) :
    spanBasic (writeChars text ++ '"' :: rest) = some (writeChars text, rest) := by
  induction text with
  | nil => simp [writeChars, spanBasic, spanQuoted, closing?]
  | cons c text ih =>
    rw [writeChars] at ih
    simp [writeChars, spanBasic_writeChar, ih]

private theorem decodeBasic_writeChar (c : Char) (rest : List Char) :
    decodeBasic false false (writeChar c ++ rest) =
      (decodeBasic false false rest).map (c :: ·) := by
  unfold writeChar
  split_ifs with hspecial hcontrol
  · rcases hspecial with rfl | rfl <;>
      cases hrest : decodeBasic false false rest <;> simp [decodeBasic, escape?, hrest]
  · have hscalar := scalar?_digits (toNat_lt_of_isControl hcontrol)
    cases hrest : decodeBasic false false rest <;> simp [decodeBasic, hscalar, hrest]
  · rw [not_or] at hspecial
    -- what is neither special nor a control character stands for itself
    have htext : isTextChar c = true := by
      simp only [isControl, isTextChar, Bool.or_eq_true, Bool.and_eq_true, decide_eq_true_eq,
        bne_iff_ne] at hcontrol ⊢
      omega
    have hfeed : c ≠ '\n' := by
      rintro rfl
      exact hcontrol (by decide)
    have hreturn : c ≠ '\r' := by
      rintro rfl
      exact hcontrol (by decide)
    rw [List.singleton_append, decodeBasic]
    · cases decodeBasic false false rest <;> simp [hfeed, htext, hspecial]
    · exact fun _ _ _ _ _ hc _ => hspecial.2 hc
    · exact fun _ _ _ _ _ _ _ _ _ hc _ => hspecial.2 hc
    · exact fun _ _ hc _ => hspecial.2 hc
    · exact fun _ hc _ => hreturn hc

private theorem decodeBasic_writeChars (text : List Char) :
    decodeBasic false false (writeChars text) = some text := by
  induction text with
  | nil => simp [writeChars, decodeBasic]
  | cons c text ih =>
    rw [writeChars] at ih
    simp [writeChars, decodeBasic_writeChar, ih]

/-- A basic string is read to its closing quote, whatever follows. -/
theorem lineString?_written (text : String) (rest : List Char) :
    lineString? '"' (writeChars text.toList ++ '"' :: rest) = some (text, rest) := by
  have hspan := spanBasic_writeChars text.toList rest
  rw [spanBasic] at hspan
  simp [lineString?, hspan, decodeBasic_writeChars]

private theorem string?_of_ne {c : Char} (h : c ≠ '"') (cs : List Char) :
    string? '"' (c :: cs) = lineString? '"' (c :: cs) := by
  cases cs <;> simp [string?, h]

private theorem writeChar_head (c : Char) :
    ∃ first others, writeChar c = first :: others ∧ first ≠ '"' := by
  unfold writeChar
  split_ifs with hspecial
  · exact ⟨'\\', [c], rfl, by decide⟩
  · exact ⟨'\\', _, rfl, by decide⟩
  · exact ⟨c, [], rfl, fun h => hspecial (.inl h)⟩

theorem string?_written (text : String) {rest : List Char} (h : rest.head? ≠ some '"') :
    string? '"' (writeChars text.toList ++ '"' :: rest) = some (text, rest) := by
  rw [← lineString?_written text rest]
  cases text.toList with
  | nil =>
    -- a third quote would begin a multi-line string
    cases rest with
    | nil => rfl
    | cons r rest =>
      have hr : r ≠ '"' := by simpa using h
      simp [writeChars, string?, hr]
  | cons c cs =>
    obtain ⟨first, others, hc, hfirst⟩ := writeChar_head c
    simp only [writeChars, List.flatMap_cons, hc, List.cons_append]
    exact string?_of_ne hfirst _

end VersionCatalog.Toml
