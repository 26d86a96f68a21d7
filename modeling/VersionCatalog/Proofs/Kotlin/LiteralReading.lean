import Mathlib.Data.List.Basic
import Mathlib.Tactic.SplitIfs
import VersionCatalog.Proofs.Kotlin.Token

namespace VersionCatalog.Kotlin

/-- The value of a literal, from a place inside it to the quote that closes it, and what follows. -/
def closeLiteral? : Mode → List Char → Option (List Char × List Char)
  | _, [] => none
  | mode, c :: cs =>
    match mode.step c with
    | some ([], next) => closeLiteral? next cs
    | some ([.text value], _) => some (value, cs)
    | _ => none

/-- The value of the string literal that a text begins with, and what follows it. -/
def literal? : List Char → Option (String × List Char)
  | '"' :: cs => (closeLiteral? (.literal []) cs).map fun p => (String.ofList p.1, p.2)
  | _ => none

/-- A reader goes on where it stands behind a part of the literal. -/
theorem closeLiteral?_append {mode next : Mode} {part : List Char}
    (h : read mode part = some ([], next)) (rest : List Char) :
    closeLiteral? mode (part ++ rest) = closeLiteral? next rest := by
  induction part generalizing mode with
  | nil =>
    obtain rfl : mode = next := by simpa [read] using h
    rfl
  | cons c cs ih =>
    simp only [read, Option.bind_eq_bind, Option.bind_eq_some_iff, Option.some.injEq,
      Prod.mk.injEq, Prod.exists, List.append_eq_nil_iff] at h
    obtain ⟨first, mode', hc, others, last, hcs, ⟨rfl, rfl⟩, rfl⟩ := h
    simp [closeLiteral?, hc, ih hcs]

private theorem literal?_quoteChars (cs rest : List Char) :
    literal? (quoteChars cs ++ rest) = some (String.ofList cs, rest) := by
  have hclose : closeLiteral? (.literal cs) ('"' :: rest) = some (cs, rest) := by
    simp [closeLiteral?, Mode.step]
  have hinside := closeLiteral?_append (read_escaped [] cs) ('"' :: rest)
  rw [List.nil_append, hclose] at hinside
  simp [literal?, quoteChars, hinside]

private theorem literal?_quote (text : String) (rest : List Char) :
    literal? ((quote text).toList ++ rest) = some (text, rest) := by
  rw [toList_quote, literal?_quoteChars, String.ofList_toList]

private theorem length_closeLiteral? {mode : Mode} {text value rest : List Char}
    (h : closeLiteral? mode text = some (value, rest)) : rest.length < text.length := by
  induction text generalizing mode with
  | nil => simp [closeLiteral?] at h
  | cons c cs ih =>
    rw [closeLiteral?] at h
    rw [List.length_cons]
    split at h
    · have hlength := ih h
      omega
    · simp only [Option.some.injEq, Prod.mk.injEq] at h
      rw [h.2]
      omega
    · simp at h

private theorem length_literal? {text rest : List Char} {value : String}
    (h : literal? text = some (value, rest)) : rest.length < text.length := by
  rw [literal?.eq_def] at h
  split at h
  · rename_i cs
    rw [Option.map_eq_some_iff] at h
    obtain ⟨p, hp, hpair⟩ := h
    obtain ⟨-, rfl⟩ := Prod.mk.inj hpair
    have hlength := length_closeLiteral? hp
    rw [List.length_cons]
    omega
  · simp at h

/-- The items of a list up to the bracket that closes it, and what follows. -/
def items? (text : List Char) : Option (List String × List Char) :=
  match _ : literal? text with
  | some (value, ')' :: rest) => some ([value], rest)
  | some (value, ',' :: ' ' :: rest) => (items? rest).map fun p => (value :: p.1, p.2)
  | _ => none
termination_by text.length
decreasing_by
  rename_i h
  have hlength := length_literal? h
  simp only [List.length_cons] at hlength
  omega

/-- The list of string literals that a text begins with, and what follows it. -/
def list? (text : List Char) : Option (List String × List Char) :=
  match text.dropPrefix? "emptyList<String>()".toList with
  | some rest => some ([], rest)
  | none => (text.dropPrefix? "listOf(".toList).bind items?

private theorem items?_quote_close (text : String) (rest : List Char) :
    items? ((quote text).toList ++ ')' :: rest) = some ([text], rest) := by
  have hitem := literal?_quote text (')' :: rest)
  rw [items?]
  split <;> simp_all

private theorem items?_quote_comma (text : String) (rest : List Char) :
    items? ((quote text).toList ++ ',' :: ' ' :: rest) =
      (items? rest).map fun p => (text :: p.1, p.2) := by
  have hitem := literal?_quote text (',' :: ' ' :: rest)
  rw [items?]
  split <;> simp_all

private theorem items?_joinWith (first : String) (others : List String) (rest : List Char) :
    items? ((Text.joinWith ", " ((first :: others).map quote)).toList ++ ')' :: rest) =
      some (first :: others, rest) := by
  induction others generalizing first with
  | nil => simpa using items?_quote_close first rest
  | cons second others ih =>
    have hrest := ih second
    have hcomma := items?_quote_comma first
      ((Text.joinWith ", " ((second :: others).map quote)).toList ++ ')' :: rest)
    rw [hrest] at hcomma
    simpa [List.intercalate_cons_cons] using hcomma

private theorem list?_listOf (texts : List String) (rest : List Char) :
    list? ((listOf texts).toList ++ rest) = some (texts, rest) := by
  cases texts with
  | nil =>
    rw [listOf, list?, List.dropPrefix?_append_of_beq _ (beq_self_eq_true _)]
  | cons first others =>
    have htext : (listOf (first :: others)).toList ++ rest = "listOf(".toList ++
        ((Text.joinWith ", " ((first :: others).map quote)).toList ++ ')' :: rest) := by
      simp [listOf]
    have hempty (cs : List Char) :
        ("listOf(".toList ++ cs).dropPrefix? "emptyList<String>()".toList = none := by
      rw [String.toList_ofList, String.toList_ofList]
      rfl
    rw [htext, list?, hempty, List.dropPrefix?_append_of_beq _ (beq_self_eq_true _)]
    exact items?_joinWith first others rest

/-- No line break is written in a literal. -/
theorem notMem_quoteChars {c : Char} (h : c = '\n' ∨ c = '\r') (cs : List Char) :
    c ∉ quoteChars cs := by
  have hquote : c ≠ '"' := by rcases h with rfl | rfl <;> decide
  have hescape (d : Char) : c ∉ escapeChar d := by
    unfold escapeChar
    split_ifs <;> rcases h with rfl | rfl <;> simp_all [eq_comm]
  simp [quoteChars, hquote, hescape]

/-- A reader inside a literal that it has not refused yet goes no further before a dollar. -/
theorem closeLiteral?_dollar (value rest : List Char) :
    closeLiteral? (.literal value) ('$' :: rest) = none := by
  simp [closeLiteral?, Mode.step]

/-- Literals are read back. The literal of a text, whatever follows it, is read as that text and
leaves what follows; no line break stands in it, and nowhere does a reader inside it that is not
right behind a backslash meet a dollar. So a list of literals is read as the list of the texts. -/
theorem literals_are_read_back (text : String) (texts : List String) (rest : List Char) :
    literal? ((quote text).toList ++ rest) = some (text, rest) ∧
    '\n' ∉ (quote text).toList ∧ '\r' ∉ (quote text).toList ∧
    (∀ inside value later, (quote text).toList = '"' :: inside ++ '$' :: later →
      read (.literal []) inside ≠ some ([], .literal value)) ∧
    list? ((listOf texts).toList ++ rest) = some (texts, rest) := by
  refine ⟨literal?_quote text rest, ?_, ?_, ?_, list?_listOf texts rest⟩
  · rw [toList_quote]
    exact notMem_quoteChars (.inl rfl) _
  · rw [toList_quote]
    exact notMem_quoteChars (.inr rfl) _
  · intro inside value later hquote hread
    have hvalue := literal?_quote text []
    have hrefused := closeLiteral?_append hread ('$' :: later)
    rw [closeLiteral?_dollar] at hrefused
    simp [hquote, literal?, hrefused] at hvalue

/-- A dollar behind its backslash, and a list whose texts look like the end of a literal, the start
of the next one and the end of the list. -/
theorem awkward_literals_are_read_back :
    (quote "$").toList = '"' :: ['\\'] ++ '$' :: ['"'] ∧
    read (.literal []) ['\\'] ≠ some ([], .literal []) ∧
    list? ((listOf ["\\", "\", \"", "\")"]).toList ++ [',']) =
      some (["\\", "\", \"", "\")"], [',']) := by
  have hdollar : (quote "$").toList = '"' :: ['\\'] ++ '$' :: ['"'] := by decide
  obtain ⟨-, -, -, hpassed, -⟩ := literals_are_read_back "$" [] []
  obtain ⟨-, -, -, -, hlist⟩ := literals_are_read_back "" ["\\", "\", \"", "\")"] [',']
  exact ⟨hdollar, hpassed ['\\'] [] ['"'] hdollar, hlist⟩

end VersionCatalog.Kotlin
