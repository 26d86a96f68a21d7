import VersionCatalog.Proofs.Toml.ContinuableQuoted
import VersionCatalog.Toml.Value

namespace VersionCatalog.Toml

/-- The bare value that begins with a word: a time may follow a date. -/
def withTime (word rest : List Char) : List Char × List Char :=
  match rest with
  | ' ' :: next :: rest =>
    if isDate word && isBareChar next then
      (word ++ ' ' :: (next :: rest).takeWhile isBareChar, (next :: rest).dropWhile isBareChar)
    else (word, ' ' :: next :: rest)
  | rest => (word, rest)

theorem spanBare_eq (cs : List Char) :
    spanBare cs = withTime (cs.takeWhile isBareChar) (cs.dropWhile isBareChar) := by
  simp only [spanBare, List.span_eq_takeWhile_dropWhile]
  rfl

private theorem continuable_withTime (word : List Char) :
    Continuable fun rest => some (withTime word rest) := by
  have hbare : isBareChar '\n' = false := by decide
  intro cs value rest hcs hread
  obtain ⟨c, cs, rfl⟩ := List.exists_cons_of_ne_nil hcs.ne_nil
  by_cases hc : c = ' '
  · subst hc
    have htail : EndsLine cs := hcs.tail (by decide)
    obtain ⟨next, cs, rfl⟩ := List.exists_cons_of_ne_nil htail.ne_nil
    simp only [withTime, List.cons_append] at hread ⊢
    split_ifs at hread ⊢ with htime
    · cases hread
      refine ⟨htail.dropWhile hbare, ?_⟩
      intro later
      rw [← List.cons_append, htail.takeWhile_append hbare, htail.dropWhile_append hbare]
    · cases hread
      exact ⟨hcs, fun later => rfl⟩
  · have hword (tail : List Char) : withTime word (c :: tail) = (word, c :: tail) := by
      simp [withTime, hc]
    simp only [List.cons_append, hword] at hread ⊢
    cases hread
    exact ⟨hcs, fun later => rfl⟩

private theorem continuable_spanBare : Continuable fun cs => some (spanBare cs) := by
  simp only [spanBare_eq]
  exact (continuable_span (by decide)).bind continuable_withTime

theorem bare?_eq : bare? = fun cs =>
    (some (spanBare cs)).bind fun part => (ofBare? part.1).map (·, part.2) := rfl

private theorem continuable_bare? : Continuable bare? := by
  rw [bare?_eq]
  exact continuable_spanBare.bind fun _ => continuable_map_pair _

private theorem ne_feed_of_quote {c : Char} (h : c = '"' ∨ c = '\'') : c ≠ '\n' := by
  rcases h with rfl | rfl <;> decide

private theorem continuable_scalarValue? : Continuable scalarValue? := by
  intro cs node rest hcs hread
  cases cs with
  | nil => exact absurd hcs not_endsLine_nil
  | cons c cs =>
    simp only [scalarValue?, List.cons_append] at hread ⊢
    split_ifs at hread ⊢ with hquote
    · have hc := ne_feed_of_quote hquote
      exact (continuable_string? hc).map Node.string (hcs.tail hc) hread
    · exact continuable_bare? hcs hread

/-- The key that a run of its characters is. -/
def bareKey? (word : List Char) : Option String :=
  if word.isEmpty then none else some (String.ofList word)

theorem key?_cons (c : Char) (cs : List Char) : key? (c :: cs) =
    if c = '"' ∨ c = '\'' then lineString? c cs
    else (some ((c :: cs).takeWhile isBareKeyChar, (c :: cs).dropWhile isBareKeyChar)).bind
      fun part => (bareKey? part.1).map (·, part.2) := by
  simp only [key?, bareKey?, List.span_eq_takeWhile_dropWhile, Option.bind_some]
  split_ifs <;> rfl

private theorem continuable_key? : Continuable key? := by
  have hspan := @continuable_span isBareKeyChar (by decide)
  have hword := hspan.bind fun word => continuable_map_pair (bareKey? word)
  intro cs key rest hcs hread
  cases cs with
  | nil => exact absurd hcs not_endsLine_nil
  | cons c cs =>
    rw [key?_cons] at hread
    simp only [List.cons_append, key?_cons]
    split_ifs at hread ⊢ with hquote
    · have hc := ne_feed_of_quote hquote
      exact continuable_lineString? hc (hcs.tail hc) hread
    · exact hword hcs hread

theorem keys?_succ (fuel : Nat) : keys? (fuel + 1) = fun cs =>
    (key? (skipBlanks cs)).bind fun part =>
      onHead '.' (fun rest => (keys? fuel rest).map fun others => (part.1 :: others.1, others.2))
        (fun rest => some ([part.1], rest)) (skipBlanks part.2) := by
  funext cs
  rw [keys?]
  show Option.bind _ _ = _
  congr 1
  funext part
  dsimp only
  split
  · next heq =>
    rw [heq, onHead_self, Option.map_eq_bind]
    rfl
  · next hne => rw [onHead_of_ne hne]

private theorem continuable_keys? (fuel : Nat) : Continuable (keys? fuel) := by
  induction fuel with
  | zero => exact continuableTo_none
  | succ fuel ih =>
    rw [keys?_succ]
    exact continuable_key?.behind_blanks.bind fun key =>
      ((ih.map (key :: ·)).onHead '.' (by decide) (continuable_some [key])).behind_blanks

theorem keyPath?_eq : keyPath? = fun cs =>
    (keys? KeyPath.limit cs).bind fun part => (KeyPath.ofKeys? part.1).map (·, part.2) := by
  funext cs
  simp only [Option.map_eq_bind]
  rfl

theorem continuable_keyPath? : Continuable keyPath? := by
  rw [keyPath?_eq]
  exact (continuable_keys? KeyPath.limit).bind fun _ => continuable_map_pair _

section Values

variable {α : Type} {read : List Char → Option (Node × List Char)}

/-- What follows an item: the closing bracket, or a comma and the other items. -/
def afterItem (close : Char) (others : List Char → Option (List α × List Char)) (item : α) :
    List Char → Option (List α × List Char) :=
  onHead close (fun rest => some ([item], rest))
    (onHead ',' (fun rest => (others rest).map fun items => (item :: items.1, items.2))
      fun _ => none)

private theorem continuable_afterItem {close : Char} (hclose : close ≠ '\n')
    {others : List Char → Option (List α × List Char)} (hothers : Continuable others) (item : α) :
    Continuable (afterItem close others item) :=
  (continuable_some [item]).onHead close hclose
    ((hothers.map (item :: ·)).onHead ',' (by decide) continuableTo_none)

theorem Extends.afterItem {others others' : List Char → Option (List α × List Char)}
    (h : Extends others others') (close : Char) (item : α) :
    Extends (afterItem close others item) (afterItem close others' item) :=
  (Extends.refl _).onHead close ((h.map (item :: ·)).onHead ',' (.refl _))

private theorem afterItem_close (close : Char) (others : List Char → Option (List α × List Char))
    (item : α)
    (rest : List Char) : afterItem close others item (close :: rest) = some ([item], rest) :=
  onHead_self ..

private theorem afterItem_comma {close : Char} (h : ',' ≠ close)
    (others : List Char → Option (List α × List Char)) (item : α) (rest : List Char) :
    afterItem close others item (',' :: rest) =
      (others rest).bind fun items => some (item :: items.1, items.2) := by
  rw [afterItem, onHead_of_ne (by simp [h]), onHead_self, Option.map_eq_bind]
  rfl

private theorem afterItem_of_ne {close : Char} {cs : List Char}
    (hclose : ∀ rest, cs ≠ close :: rest)
    (hcomma : ∀ rest, cs ≠ ',' :: rest) (others : List Char → Option (List α × List Char))
    (item : α) : afterItem close others item cs = none := by
  rw [afterItem, onHead_of_ne hclose, onHead_of_ne hcomma]

theorem items?_succ (read : List Char → Option (Node × List Char)) (fuel : Nat) :
    items? read (fuel + 1) = fun cs =>
      onHead ']' (fun rest => some ([], rest))
        (fun cs => (read cs).bind fun part =>
          afterItem ']' (items? read fuel) part.1 (skipLines false part.2))
        (skipLines false cs) := by
  funext cs
  rw [items?]
  split
  · next heq => rw [heq, onHead_self]
  · next hopen =>
    rw [onHead_of_ne hopen]
    show Option.bind _ _ = _
    congr 1
    funext part
    dsimp only
    split
    · next heq => rw [heq, afterItem_close]
    · next heq =>
      rw [heq, afterItem_comma (by decide)]
      rfl
    · next hclose hcomma => rw [afterItem_of_ne hclose hcomma]

private theorem continuable_items? (hread : Continuable read) (hnil : read [] = none) (fuel : Nat) :
    Continuable (items? read fuel) := by
  induction fuel with
  | zero => exact continuableTo_none
  | succ fuel ih =>
    rw [items?_succ]
    have hafter (item : Node) : Continuable fun cs =>
        afterItem ']' (items? read fuel) item (skipLines false cs) :=
      (continuable_afterItem (by decide) ih item).behind_lines rfl
    refine ((continuable_some []).onHead ']' (by decide) (hread.bind hafter)).behind_lines ?_
    rw [onHead, hnil]
    rfl

private theorem extends_items? (fuel : Nat) :
    Extends (items? read fuel) (items? read (fuel + 1)) := by
  induction fuel with
  | zero =>
    intro _ _ h
    cases h
  | succ fuel ih =>
    rw [items?_succ, items?_succ]
    intro cs part h
    have hafter (item : Node) : Extends
        (fun cs => afterItem ']' (items? read fuel) item (skipLines false cs))
        (fun cs => afterItem ']' (items? read (fuel + 1)) item (skipLines false cs)) :=
      fun _ _ h => ih.afterItem ']' item h
    exact (Extends.refl _).onHead ']' (.bind hafter read) h

theorem assignment?_eq (read : List Char → Option (Node × List Char)) :
    assignment? read = fun cs => (keyPath? cs).bind fun path =>
      onHead '=' (fun rest => (read (skipBlanks rest)).map fun node => ((path.1, node.1), node.2))
        (fun _ => none) path.2 := by
  funext cs
  rw [assignment?]
  show Option.bind _ _ = _
  congr 1
  funext path
  dsimp only
  split
  · next heq =>
    rw [heq, onHead_self, Option.map_eq_bind]
    rfl
  · next hne => rw [onHead_of_ne hne]

theorem continuable_assignment? (hread : Continuable read) : Continuable (assignment? read) := by
  rw [assignment?_eq]
  exact continuable_keyPath?.bind fun path =>
    (hread.behind_blanks.map (Prod.mk path)).onHead '=' (by decide) continuableTo_none

theorem assignments?_succ (read : List Char → Option (Node × List Char)) (fuel : Nat) :
    assignments? read (fuel + 1) = fun cs => (assignment? read cs).bind fun part =>
      afterItem '}' (assignments? read fuel) part.1 (skipBlanks part.2) := by
  funext cs
  rw [assignments?]
  show Option.bind _ _ = _
  congr 1
  funext part
  dsimp only
  split
  · next heq => rw [heq, afterItem_close]
  · next heq =>
    rw [heq, afterItem_comma (by decide)]
    rfl
  · next hclose hcomma => rw [afterItem_of_ne hclose hcomma]

private theorem continuable_assignments? (hread : Continuable read) (fuel : Nat) :
    Continuable (assignments? read fuel) := by
  induction fuel with
  | zero => exact continuableTo_none
  | succ fuel ih =>
    rw [assignments?_succ]
    exact (continuable_assignment? hread).bind fun item =>
      (continuable_afterItem (by decide) ih item).behind_blanks

private theorem extends_assignments? (fuel : Nat) :
    Extends (assignments? read fuel) (assignments? read (fuel + 1)) := by
  induction fuel with
  | zero =>
    intro _ _ h
    cases h
  | succ fuel ih =>
    rw [assignments?_succ, assignments?_succ]
    have hafter (item : KeyPath × Node) : Extends
        (fun cs => afterItem '}' (assignments? read fuel) item (skipBlanks cs))
        (fun cs => afterItem '}' (assignments? read (fuel + 1)) item (skipBlanks cs)) :=
      fun _ _ h => ih.afterItem '}' item h
    exact .bind hafter (assignment? read)

/-- The table that assignments make. -/
def tableOf? (assignments : List (KeyPath × Node)) : Option Node :=
  (Entries.ofAssignments assignments []).map fun entries => .table (entryNodes entries)

theorem inlineTable?_eq (read : List Char → Option (Node × List Char)) :
    inlineTable? read = fun cs =>
      onHead '}' (fun rest => some (.table [], rest))
        (fun cs => (assignments? read cs.length cs).bind fun part =>
          (tableOf? part.1).map (·, part.2))
        (skipBlanks cs) := by
  funext cs
  rw [inlineTable?]
  split
  · next heq => rw [heq, onHead_self]
  · next hne =>
    rw [onHead_of_ne hne]
    show Option.bind _ _ = _
    congr 1
    funext part
    rw [tableOf?, Option.map_map, Option.map_eq_bind]
    rfl

private theorem continuable_inlineTable? (hread : Continuable read) :
    Continuable (inlineTable? read) := by
  rw [inlineTable?_eq]
  have hall := continuable_length (continuable_assignments? hread) extends_assignments?
  have htable := hall.bind fun assignments => continuable_map_pair (tableOf? assignments)
  exact ((continuable_some (Node.table [])).onHead '}' (by decide) htable).behind_blanks

theorem value?_succ (depth : Nat) : value? (depth + 1) =
    onHead '[' (fun cs => (items? (value? depth) cs.length cs).map fun items =>
        (.array items.1, items.2))
      (onHead '{' (inlineTable? (value? depth)) scalarValue?) := by
  funext cs
  cases cs with
  | nil => rfl
  | cons c cs =>
    by_cases hbracket : c = '['
    · simp [value?, onHead, hbracket]
    · by_cases hbrace : c = '{'
      · simp [value?, onHead, hbrace]
      · simp [value?, onHead, hbracket, hbrace]

theorem continuable_value? (depth : Nat) : Continuable (value? depth) := by
  induction depth with
  | zero => exact continuable_scalarValue?
  | succ depth ih =>
    rw [value?_succ]
    have hnil : value? depth [] = none := by cases depth <;> rfl
    have hitems := continuable_length (continuable_items? ih hnil) extends_items?
    exact (hitems.map Node.array).onHead '[' (by decide)
      ((continuable_inlineTable? ih).onHead '{' (by decide) continuable_scalarValue?)

end Values

end VersionCatalog.Toml
