import Mathlib.Data.List.Infix
import VersionCatalog.Kotlin.Comment

namespace VersionCatalog.Kotlin

/-- The mark that opens a comment. -/
def opening : List Char := ['/', '*']

/-- The mark that closes a comment. -/
def closing : List Char := ['*', '/']

/-- What follows a comment, read from inside it with `depth` more comments open. Each mark is taken
as soon as it is complete. -/
def afterComment : Nat → List Char → Option (List Char)
  | depth, '/' :: '*' :: rest => afterComment (depth + 1) rest
  | 0, '*' :: '/' :: rest => some rest
  | depth + 1, '*' :: '/' :: rest => afterComment depth rest
  | depth, _ :: rest => afterComment depth rest
  | _, [] => none

/-- What follows the comment that a text begins with. -/
def comment? : List Char → Option (List Char)
  | '/' :: '*' :: rest => afterComment 0 rest
  | _ => none

/-- The number of comments that a text opens. -/
def openings : List Char → Nat
  | '/' :: '*' :: rest => openings rest + 1
  | _ :: rest => openings rest
  | [] => 0

variable {c : Char} {cs rest : List Char}

private theorem mark_prefix_cons_iff {a b : Char} :
    [a, b] <+: c :: cs ↔ c = a ∧ cs.head? = some b := by
  rw [List.cons_prefix_cons, List.singleton_prefix_iff_head?_eq_some, eq_comm]

private theorem not_mark_prefix_iff {a b : Char} :
    ¬ [a, b] <+: c :: cs ↔ ∀ others, c = a → cs = b :: others → False := by
  rw [mark_prefix_cons_iff, List.head?_eq_some_iff]
  grind

private theorem afterComment_cons {depth : Nat} (hopening : ¬ opening <+: c :: rest)
    (hclosing : ¬ closing <+: c :: rest) :
    afterComment depth (c :: rest) = afterComment depth rest := by
  have hclose := not_mark_prefix_iff.mp hclosing
  exact afterComment.eq_4 _ _ _ (not_mark_prefix_iff.mp hopening) (fun others _ => hclose others)
    fun _ others _ => hclose others

/-- A character that belongs to no mark completes none. -/
theorem mark_prefix_append_iff {a b : Char} (hb : c ≠ b) (d : Char) (cs rest : List Char) :
    [a, b] <+: d :: (cs ++ c :: rest) ↔ [a, b] <+: d :: cs := by
  rw [mark_prefix_cons_iff, mark_prefix_cons_iff]
  cases cs <;> simp [hb]

/-- A text that closes nothing only adds the comments that it opens. -/
theorem afterComment_append (hcs : ¬ closing <:+: cs) (hslash : c ≠ '/') (hstar : c ≠ '*')
    (depth : Nat) (rest : List Char) :
    afterComment depth (cs ++ c :: rest) = afterComment (depth + openings cs) rest := by
  induction cs using openings.induct generalizing depth with
  | case1 cs ih =>
    have hrest : ¬ closing <:+: cs := fun h =>
      hcs (h.trans (List.suffix_append opening cs).isInfix)
    rw [List.cons_append, List.cons_append, afterComment, ih hrest, openings]
    congr 1
    omega
  | case2 d cs hopen ih =>
    rw [List.infix_cons_iff, not_or] at hcs
    have hopening : ¬ opening <+: d :: cs := not_mark_prefix_iff.mpr hopen
    rw [List.cons_append, afterComment_cons, ih hcs.2, openings]
    · exact hopen
    · exact mt (mark_prefix_append_iff hstar d cs rest).mp hopening
    · exact mt (mark_prefix_append_iff hslash d cs rest).mp hcs.1
  | case3 =>
    rw [List.nil_append, afterComment_cons]
    · rfl
    · simp [opening, List.cons_prefix_cons, hslash.symm]
    · simp [closing, List.cons_prefix_cons, hstar.symm]

private theorem openings_eq_zero_iff : openings cs = 0 ↔ ¬ opening <:+: cs := by
  induction cs using openings.induct with
  | case1 cs ih =>
    have hinfix : opening <:+: '/' :: '*' :: cs := (List.prefix_append opening cs).isInfix
    simp [openings, hinfix]
  | case2 d cs hopen ih =>
    have hopening : ¬ opening <+: d :: cs := not_mark_prefix_iff.mpr hopen
    rw [openings, ih, List.infix_cons_iff]
    · simp [hopening]
    · exact hopen
  | case3 => simp [openings, opening]

-- The two replacements of a label are one pass over it, which the next three equations describe.

@[simp] theorem commentChars_nil : commentChars [] = [] := rfl

private theorem commentChars_closing (cs : List Char) :
    commentChars ('*' :: '/' :: cs) = "*&#47;".toList ++ commentChars cs :=
  List.map_append

private theorem commentChars_cons (h : ∀ rest, c = '*' → cs = '/' :: rest → False) :
    commentChars (c :: cs) = (if c = '\n' then ' ' else c) :: commentChars cs := by
  rw [commentChars, commentChars]
  conv_lhs => unfold referClosings
  split <;> simp_all

private theorem head?_commentChars (cs : List Char) :
    (commentChars cs).head? = cs.head?.map fun c => if c = '\n' then ' ' else c := by
  induction cs using referClosings.induct with
  | case1 cs => simp [commentChars_closing]
  | case2 c cs hmark => simp [commentChars_cons hmark]
  | case3 => rfl

/-- A mark begins at a character of a label, as it is written, if it begins there in the label. -/
theorem mark_prefix_iff {a b : Char} (ha : a ≠ ' ' ∧ a ≠ '\n') (hb : b ≠ ' ' ∧ b ≠ '\n') (c : Char)
    (cs : List Char) :
    [a, b] <+: (if c = '\n' then ' ' else c) :: commentChars cs ↔ [a, b] <+: c :: cs := by
  have hsame {d : Char} (hd : d ≠ ' ' ∧ d ≠ '\n') (e : Char) :
      (if e = '\n' then ' ' else e) = d ↔ e = d := by
    split_ifs with he
    · subst he
      exact iff_of_false (Ne.symm hd.1) (Ne.symm hd.2)
    · rfl
  rw [mark_prefix_cons_iff, mark_prefix_cons_iff, head?_commentChars, hsame ha]
  simp [hsame hb]

/-- What is written for a mark that closes has no mark in it, and ends none that follows. -/
theorem mark_infix_reference_iff {mark : List Char} (hmark : mark = opening ∨ mark = closing)
    (cs : List Char) : mark <:+: "*&#47;".toList ++ cs ↔ mark <:+: cs := by
  have hchars : "*&#47;".toList = ['*', '&', '#', '4', '7', ';'] := by decide
  rcases hmark with rfl | rfl <;>
    simp [hchars, opening, closing, List.infix_cons_iff]

/-- No mark that closes is left in a label. -/
theorem closing_notInfix_commentChars (cs : List Char) : ¬ closing <:+: commentChars cs := by
  induction cs using referClosings.induct with
  | case1 cs ih => rwa [commentChars_closing, mark_infix_reference_iff (.inr rfl)]
  | case2 c cs hmark ih =>
    rw [commentChars_cons hmark, List.infix_cons_iff, not_or, closing,
      mark_prefix_iff (by decide) (by decide)]
    exact ⟨not_mark_prefix_iff.mpr hmark, ih⟩
  | case3 => simp [closing]

/-- Whether a label opens a comment: a star follows a slash in it that follows no star. -/
def OpensComment (label : List Char) : Prop :=
  ∃ before after, label = before ++ '/' :: '*' :: after ∧ before.getLast? ≠ some '*'

/-- A character changes nothing about the marks behind it, but for a star before a slash. -/
theorem opensComment_cons_iff (h : ¬ closing <+: c :: cs) :
    OpensComment (c :: cs) ↔ opening <+: c :: cs ∨ OpensComment cs := by
  constructor
  · rintro ⟨before, after, hsplit, hlast⟩
    cases before with
    | nil => exact .inl ⟨after, hsplit.symm⟩
    | cons d before =>
      obtain ⟨rfl, rfl⟩ := List.cons.inj hsplit
      refine .inr ⟨before, after, rfl, fun hstar => hlast ?_⟩
      rw [List.getLast?_cons, hstar]
      rfl
  · rintro (⟨after, hsplit⟩ | ⟨before, after, rfl, hlast⟩)
    · exact ⟨[], after, hsplit.symm, by simp⟩
    · refine ⟨c :: before, after, rfl, fun hstar => ?_⟩
      rw [List.getLast?_cons, Option.some.injEq] at hstar
      cases before with
      | nil => exact h (by simp_all [closing])
      | cons d before => exact hlast (by simpa [List.getLast?_cons] using hstar)

/-- A slash behind a star takes part in no mark that opens. -/
theorem opensComment_closing_iff : OpensComment ('*' :: '/' :: cs) ↔ OpensComment cs := by
  constructor
  · rintro ⟨before, after, hsplit, hlast⟩
    cases before with
    | nil => simp at hsplit
    | cons d before =>
      cases before with
      | nil =>
        obtain ⟨rfl, -⟩ := List.cons.inj hsplit
        simp at hlast
      | cons e before =>
        have hcs : cs = before ++ '/' :: '*' :: after := by simp_all
        refine ⟨before, after, hcs, fun hstar => hlast ?_⟩
        simp [List.getLast?_cons, hstar]
  · rintro ⟨before, after, rfl, hlast⟩
    refine ⟨'*' :: '/' :: before, after, rfl, fun hstar => hlast ?_⟩
    cases before with
    | nil => simp at hstar
    | cons d before => simpa [List.getLast?_cons] using hstar

/-- The marks that open a comment in a label, as it is written, are those of the label. -/
theorem opening_infix_commentChars_iff (cs : List Char) :
    opening <:+: commentChars cs ↔ OpensComment cs := by
  induction cs using referClosings.induct with
  | case1 cs ih =>
    rw [commentChars_closing, mark_infix_reference_iff (.inl rfl), ih, opensComment_closing_iff]
  | case2 c cs hmark ih =>
    rw [commentChars_cons hmark, List.infix_cons_iff, opening,
      mark_prefix_iff (by decide) (by decide), ← opening, ih,
      opensComment_cons_iff (not_mark_prefix_iff.mpr hmark)]
  | case3 => simp [opening, OpensComment]

/-- The lines of the description are fixed but for that of the label, and those above it neither open
a comment nor close one. -/
theorem exists_docLines : ∃ above : List String, above.length = 10 ∧
    (∀ line ∈ above, '\n' ∉ line.toList ∧ ¬ closing <:+: line.toList ∧ openings line.toList = 0) ∧
    ∀ version, classDoc version = Text.unlines ("/**" :: above ++
      [" * @version v" ++ String.ofList (commentChars version.toList), " */"]) := by
  refine ⟨[_, _, _, _, _, _, _, _, _, _], rfl, ?_, fun _ => rfl⟩
  simp only [List.forall_mem_cons, String.toList_append]
  -- Deciding about the characters of a literal is fast once they stand in a list.
  repeat rw [String.toList_ofList]
  and_intros <;> decide +kernel

private theorem afterComment_unlines {lines : List String}
    (h : ∀ line ∈ lines, ¬ closing <:+: line.toList ∧ openings line.toList = 0) (depth : Nat)
    (rest : List Char) :
    afterComment depth ((Text.unlines lines).toList ++ rest) = afterComment depth rest := by
  rw [Text.toList_unlines]
  induction lines with
  | nil => rfl
  | cons line lines ih =>
    obtain ⟨hclosing, hopenings⟩ := h line (by simp)
    rw [List.flatMap_cons, List.append_assoc, List.append_assoc, List.singleton_append,
      afterComment_append hclosing (by decide) (by decide), hopenings]
    exact ih fun other hother => h other (by simp [hother])

/-- The comments that the label opens are still open behind the description. -/
theorem comment?_classDoc (version : String) (code : List Char) :
    comment? ((classDoc version).toList ++ code) =
      match openings (commentChars version.toList) with
      | 0 => some ('\n' :: code)
      | depth + 1 => afterComment depth ('\n' :: code) := by
  obtain ⟨above, -, habove, hlines⟩ := exists_docLines
  have htext : (classDoc version).toList ++ code = '/' :: '*' :: (['*'] ++ '\n' ::
      ((Text.unlines above).toList ++ (" * @version ".toList ++ 'v' ::
        (commentChars version.toList ++ '\n' :: ([' '] ++ '*' :: '/' :: '\n' :: code))))) := by
    rw [hlines]
    simp
  have hstar : ¬ closing <:+: ['*'] := by decide
  have hversion : ¬ closing <:+: " * @version ".toList := by
    rw [String.toList_ofList]
    decide
  have hopenings : openings ['*'] + openings " * @version ".toList = 0 := by
    rw [String.toList_ofList]
    decide
  have hlabel := closing_notInfix_commentChars version.toList
  rw [htext, comment?, afterComment_append hstar (by decide) (by decide),
    afterComment_unlines fun line hline => (habove line hline).2,
    afterComment_append hversion (by decide) (by decide),
    afterComment_append hlabel (by decide) (by decide), Nat.zero_add, hopenings, Nat.zero_add]
  cases openings (commentChars version.toList) with
  | zero => rfl
  | succ depth => rfl

private theorem feed_notMem_commentChars (cs : List Char) : '\n' ∉ commentChars cs := by
  induction cs using referClosings.induct with
  | case1 cs ih =>
    rw [commentChars_closing, List.mem_append, not_or]
    exact ⟨by decide, ih⟩
  | case2 c cs hmark ih =>
    rw [commentChars_cons hmark, List.mem_cons, not_or]
    exact ⟨by split_ifs <;> simp_all [eq_comm], ih⟩
  | case3 => simp

/-- A label makes one line of the description, behind the eleven that do not depend on it. -/
theorem drop_pieces_classDoc (version : String) :
    (Text.pieces (· == '\n') (classDoc version).toList).drop 11 =
      [" * @version v".toList ++ commentChars version.toList, " */".toList, []] := by
  obtain ⟨above, hlength, habove, hlines⟩ := exists_docLines
  have hlabel : '\n' ∉ (" * @version v" ++ String.ofList (commentChars version.toList)).toList := by
    rw [String.toList_append, String.toList_ofList, String.toList_ofList, List.mem_append, not_or]
    exact ⟨by decide, feed_notMem_commentChars _⟩
  have hfeed : ∀ line ∈ "/**" :: above ++
      [" * @version v" ++ String.ofList (commentChars version.toList), " */"],
      '\n' ∉ line.toList := by
    rw [List.cons_append, List.forall_mem_cons, List.forall_mem_append]
    exact ⟨by decide, fun line hline => (habove line hline).1, by simp [-String.toList_append, hlabel]⟩
  rw [hlines, Text.pieces_unlines hfeed, List.map_append, List.append_assoc,
    List.drop_left' (by simp [hlength])]
  simp

/-- The description of a class is one comment, with nothing behind it but a line feed, just if the
label opens no comment. Each comment that it opens takes one that closes from the code behind the
description. In any case the label makes one line. -/
theorem classDoc_isComment_iff (version : String) :
    (comment? (classDoc version).toList = some ['\n'] ↔ ¬ OpensComment version.toList) ∧
    (∀ code, comment? ((classDoc version).toList ++ code) =
      match openings (commentChars version.toList) with
      | 0 => some ('\n' :: code)
      | depth + 1 => afterComment depth ('\n' :: code)) ∧
    (Text.pieces (· == '\n') (classDoc version).toList).drop 11 =
      [" * @version v".toList ++ commentChars version.toList, " */".toList, []] := by
  refine ⟨?_, comment?_classDoc version, drop_pieces_classDoc version⟩
  rw [← List.append_nil (classDoc version).toList, comment?_classDoc,
    ← opening_infix_commentChars_iff, ← openings_eq_zero_iff]
  cases openings (commentChars version.toList) with
  | zero => simp
  | succ depth => simp [afterComment]

/-- A label that opens a comment leaves the description open. -/
theorem classDoc_slashStar_isOpen : comment? (classDoc "/*").toList = none := by
  rw [← List.append_nil (classDoc "/*").toList, comment?_classDoc]
  have hopenings : openings (commentChars "/*".toList) = 1 := by decide
  rw [hopenings]
  rfl

end VersionCatalog.Kotlin
