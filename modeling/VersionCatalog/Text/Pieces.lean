namespace VersionCatalog.Text

/-- The pieces of a text between the characters that `isBreak` picks out. There is always one piece
more than there are such characters. -/
def pieces (isBreak : Char → Bool) : List Char → List (List Char)
  | [] => [[]]
  | c :: cs =>
    if isBreak c then [] :: pieces isBreak cs
    else (pieces isBreak cs).modifyHead (c :: ·)

/-- What stands before the first separator of a text and what follows it, if it has one. -/
def splitFirst? (separator : Char) : List Char → Option (List Char × List Char)
  | [] => none
  | c :: cs =>
    if c = separator then some ([], cs)
    else (splitFirst? separator cs).map fun (before, after) => (c :: before, after)

theorem pieces_ne_nil (isBreak : Char → Bool) (cs : List Char) : pieces isBreak cs ≠ [] := by
  induction cs with
  | nil => simp [pieces]
  | cons c cs ih =>
    unfold pieces
    split
    · simp
    · cases h : pieces isBreak cs with
      | nil => exact absurd h ih
      | cons piece rest => simp

theorem pieces_of_all_false {isBreak : Char → Bool} {cs : List Char}
    (h : ∀ c ∈ cs, isBreak c = false) : pieces isBreak cs = [cs] := by
  induction cs with
  | nil => rfl
  | cons c cs ih =>
    simp [pieces, h c (by simp), ih (fun d hd => h d (by simp [hd]))]

theorem pieces_of_notMem {separator : Char} {cs : List Char} (h : separator ∉ cs) :
    pieces (· == separator) cs = [cs] :=
  pieces_of_all_false fun _ hc => beq_eq_false_iff_ne.mpr fun heq => h (heq ▸ hc)

theorem not_break_of_mem_pieces {isBreak : Char → Bool} {cs piece : List Char}
    (h : piece ∈ pieces isBreak cs) : ∀ c ∈ piece, isBreak c = false := by
  induction cs generalizing piece with
  | nil => simp [pieces] at h; simp [h]
  | cons c cs ih =>
    unfold pieces at h
    split at h
    · rcases List.mem_cons.mp h with rfl | h
      · simp
      · exact ih h
    · rename_i hc
      cases hp : pieces isBreak cs with
      | nil => exact absurd hp (pieces_ne_nil isBreak cs)
      | cons first rest =>
        rw [hp, List.modifyHead_cons] at h
        rcases List.mem_cons.mp h with rfl | h
        · intro d hd
          rcases List.mem_cons.mp hd with rfl | hd
          · simpa using hc
          · exact ih (by simp [hp]) d hd
        · exact ih (by simp [hp, h])

theorem pieces_append {isBreak : Char → Bool} (before : List Char) {c : Char} (after : List Char)
    (hc : isBreak c = true) :
    pieces isBreak (before ++ c :: after) = pieces isBreak before ++ pieces isBreak after := by
  induction before with
  | nil => simp [pieces, hc]
  | cons d before ih =>
    rw [List.cons_append, pieces, pieces, ih]
    split
    · rfl
    · cases hpieces : pieces isBreak before with
      | nil => exact absurd hpieces (pieces_ne_nil isBreak before)
      | cons first rest => rfl

theorem length_pieces (separator : Char) (cs : List Char) :
    (pieces (· == separator) cs).length = cs.count separator + 1 := by
  induction cs with
  | nil => rfl
  | cons c cs ih =>
    rw [pieces, List.count_cons]
    split
    · rw [List.length_cons, ih]
    · rw [List.length_modifyHead, ih, Nat.add_zero]

/-- The first piece ends at the first separator, and the others are those of what follows it. -/
theorem pieces_of_mem {separator : Char} {cs : List Char} (h : separator ∈ cs) :
    pieces (· == separator) cs = cs.takeWhile (· != separator) ::
      pieces (· == separator) ((cs.dropWhile (· != separator)).drop 1) := by
  obtain ⟨before, after, rfl, hbefore⟩ := List.eq_append_cons_of_mem h
  have hpass : ∀ c ∈ before, (c != separator) = true := fun c hc =>
    bne_iff_ne.mpr fun heq => hbefore (heq ▸ hc)
  rw [pieces_append _ _ (by simp), pieces_of_notMem hbefore, List.takeWhile_append_of_pos hpass,
    List.dropWhile_append_of_pos hpass]
  simp

theorem splitFirst?_eq (separator : Char) (cs : List Char) :
    splitFirst? separator cs =
      if separator ∈ cs then
        some (cs.takeWhile (· != separator), (cs.dropWhile (· != separator)).drop 1)
      else none := by
  induction cs with
  | nil => rfl
  | cons c cs ih =>
    by_cases hc : c = separator
    · simp [splitFirst?, hc]
    · rw [splitFirst?, if_neg hc, ih]
      by_cases hmem : separator ∈ cs <;> simp [hc, hmem, Ne.symm hc]

/-- No piece holds the separator. -/
theorem separator_notMem_of_mem_pieces {separator : Char} {cs piece : List Char}
    (h : piece ∈ pieces (· == separator) cs) : separator ∉ piece := by
  intro hmem
  have hbreak := not_break_of_mem_pieces h separator hmem
  simp at hbreak

/-- Joining the pieces with their separator gives the text back. -/
theorem intercalate_pieces (separator : Char) (cs : List Char) :
    List.intercalate [separator] (pieces (· == separator) cs) = cs := by
  induction cs with
  | nil => rfl
  | cons c cs ih =>
    cases hp : pieces (· == separator) cs with
    | nil => exact absurd hp (pieces_ne_nil _ cs)
    | cons first rest =>
      rw [hp] at ih
      unfold pieces
      split
      · rename_i hc
        rw [hp]
        simp only [beq_iff_eq] at hc
        simp [List.intercalate, List.intersperse, hc] at ih ⊢
        exact ih
      · rw [hp, List.modifyHead_cons]
        cases rest with
        | nil => simpa [List.intercalate] using ih
        | cons second rest =>
          simp [List.intercalate, List.intersperse] at ih ⊢
          exact ih

/-- Texts without separators are the pieces of what they are joined to. -/
theorem pieces_intercalate {isBreak : Char → Bool} {separator : Char} {parts : List (List Char)}
    (hseparator : isBreak separator = true) (hne : parts ≠ [])
    (h : ∀ part ∈ parts, ∀ c ∈ part, isBreak c = false) :
    pieces isBreak (List.intercalate [separator] parts) = parts := by
  induction parts with
  | nil => contradiction
  | cons part parts ih =>
    have hpart := pieces_of_all_false (h part List.mem_cons_self)
    cases parts with
    | nil => simpa using hpart
    | cons next parts =>
      have hothers := ih (List.cons_ne_nil _ _) fun other hother =>
        h other (List.mem_cons_of_mem _ hother)
      rw [List.intercalate_cons_cons, List.append_assoc, List.singleton_append,
        pieces_append part _ hseparator, hpart, hothers]
      rfl

/-- The texts with `separator` between each two of them. -/
def joinWith (separator : String) (texts : List String) : String :=
  String.ofList (List.intercalate separator.toList (texts.map String.toList))

@[simp] theorem toList_joinWith (separator : String) (texts : List String) :
    (joinWith separator texts).toList =
      List.intercalate separator.toList (texts.map String.toList) := by
  simp [joinWith]

/-- Each line followed by a line feed. -/
def unlines (lines : List String) : String :=
  String.ofList (lines.flatMap fun line => line.toList ++ ['\n'])

@[simp] theorem toList_unlines (lines : List String) :
    (unlines lines).toList = lines.flatMap fun line => line.toList ++ ['\n'] := by
  simp [unlines]

/-- The lines are the pieces between line feeds, and nothing follows the last one. -/
theorem pieces_unlines {lines : List String} (h : ∀ line ∈ lines, '\n' ∉ line.toList) :
    pieces (· == '\n') (unlines lines).toList = lines.map String.toList ++ [[]] := by
  induction lines with
  | nil => simp [pieces]
  | cons line lines ih =>
    have hlines := ih fun other hother => h other (by simp [hother])
    rw [toList_unlines] at hlines
    rw [toList_unlines, List.flatMap_cons, List.append_assoc, List.singleton_append,
      pieces_append _ _ (by simp), pieces_of_notMem (h line (by simp)), hlines]
    rfl

/-- Decimal digits, after a minus sign if the number is negative. -/
def decimal (n : Int) : String :=
  if n < 0 then "-" ++ Nat.repr n.natAbs else Nat.repr n.natAbs

end VersionCatalog.Text
