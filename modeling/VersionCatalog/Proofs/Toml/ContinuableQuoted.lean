import VersionCatalog.Proofs.Toml.Continuable
import VersionCatalog.Toml.Quoted

namespace VersionCatalog.Toml

theorem EndsLine.prepend {cs : List Char} (h : EndsLine cs) (before : List Char) :
    EndsLine (before ++ cs) := by
  rw [EndsLine] at h ⊢
  rw [List.getLast?_append, h]
  rfl

/-- A reader of the end of a string, which sees at once whether the string ends. -/
structure Closes (close? : List Char → Option (List Char × List Char)) : Prop where
  endsLine : ∀ {cs last rest}, EndsLine cs → close? cs = some (last, rest) → EndsLine rest
  append : ∀ {cs}, EndsLine cs → ∀ later,
    close? (cs ++ later) = (close? cs).map fun closed => (closed.1, closed.2 ++ later)

private theorem closes_closing? {quote : Char} (h : quote ≠ '\n') : Closes (closing? quote) where
  endsLine := by
    intro cs last rest hcs hclose
    cases cs with
    | nil => cases hclose
    | cons c cs =>
      rw [closing?] at hclose
      split_ifs at hclose with hc
      cases hclose
      exact hcs.tail (hc ▸ h)
  append := by
    intro cs hcs later
    cases cs with
    | nil => exact absurd hcs not_endsLine_nil
    | cons c cs =>
      rw [List.cons_append, closing?, closing?]
      split_ifs <;> rfl

private theorem closes_multilineClosing? {quote : Char} (h : quote ≠ '\n') :
    Closes (multilineClosing? quote) := by
  have hfeed : ('\n' == quote) = false := by simpa using Ne.symm h
  have hlength (cs : List Char) :
      min (cs.takeWhile (· == quote)).length 5 ≤ (cs.takeWhile (· == quote)).length :=
    Nat.min_le_left _ _
  constructor
  · intro cs last rest hcs hclose
    rw [multilineClosing?] at hclose
    split_ifs at hclose
    cases hclose
    have hdrop : cs.drop (min (cs.takeWhile (· == quote)).length 5) =
        (cs.takeWhile (· == quote)).drop (min (cs.takeWhile (· == quote)).length 5) ++
          cs.dropWhile (· == quote) := by
      rw [← List.drop_append_of_le_length (hlength cs), List.takeWhile_append_dropWhile]
    rw [hdrop]
    exact (hcs.dropWhile hfeed).prepend _
  · intro cs hcs later
    rw [multilineClosing?, multilineClosing?, hcs.takeWhile_append hfeed]
    have hle : min (cs.takeWhile (· == quote)).length 5 ≤ cs.length :=
      Nat.le_trans (hlength cs) (List.takeWhile_sublist _).length_le
    rw [List.drop_append_of_le_length hle]
    split_ifs <;> rfl

private theorem continuable_spanQuoted {close? : List Char → Option (List Char × List Char)}
    (hclose : Closes close?) (hasEscapes escaped : Bool) :
    Continuable (spanQuoted close? hasEscapes escaped) := by
  intro cs body rest hcs hread
  induction cs generalizing escaped body with
  | nil => cases hread
  | cons c cs ih =>
    rw [spanQuoted] at hread
    have hsame (later : List Char) :
        (if escaped then none else close? (c :: cs ++ later)) =
          (if escaped then none else close? (c :: cs)).map fun closed =>
            (closed.1, closed.2 ++ later) := by
      cases escaped with
      | true => rfl
      | false => exact hclose.append hcs later
    cases hend : if escaped then none else close? (c :: cs) with
    | some closed =>
      rw [hend] at hread
      cases hread
      have hclosed : close? (c :: cs) = some (body, rest) := by
        cases escaped with
        | true => cases hend
        | false => exact hend
      refine ⟨hclose.endsLine hcs hclosed, ?_⟩
      intro later
      rw [List.cons_append, spanQuoted, ← List.cons_append, hsame, hend]
      rfl
    | none =>
      rw [hend] at hread
      obtain ⟨⟨others, rest'⟩, hothers, heq⟩ := Option.bind_eq_some_iff.mp hread
      cases heq
      rcases hcs.wholeLines_tail with rfl | hcs'
      · cases hothers
      · obtain ⟨hrest, hmore⟩ := ih _ hcs' hothers
        refine ⟨hrest, ?_⟩
        intro later
        rw [List.cons_append, spanQuoted, ← List.cons_append, hsame, hend]
        simp [hmore later]

/-- The text that the body of a string stands for. -/
def decode (quote : Char) (multiline : Bool) (body : List Char) : Option String :=
  (if quote == '"' then decodeBasic multiline false body else decodeLiteral multiline body).map
    String.ofList

theorem lineString?_eq (quote : Char) : lineString? quote = fun cs =>
    (spanQuoted (closing? quote) (quote == '"') false cs).bind fun part =>
      (decode quote false part.1).map fun text => (text, part.2) := by
  funext cs
  by_cases hquote : quote = '"' <;>
    simp [lineString?, decode, hquote, Option.map_eq_bind, Option.bind_assoc]

theorem continuable_lineString? {quote : Char} (h : quote ≠ '\n') :
    Continuable (lineString? quote) := by
  rw [lineString?_eq]
  exact (continuable_spanQuoted (closes_closing? h) _ _).bind fun _ => continuable_map_pair _

theorem EndsLine.lineBreak? {cs rest : List Char} (h : EndsLine cs)
    (hbreak : lineBreak? cs = some rest) : WholeLines rest := by
  revert hbreak
  fun_cases Toml.lineBreak? cs with
  | case1 rest' =>
    rintro ⟨⟩
    exact h.wholeLines_tail
  | case2 rest' =>
    rintro ⟨⟩
    exact (h.tail (by decide)).wholeLines_tail
  | case3 => rintro ⟨⟩

theorem EndsLine.lineBreak?_append {cs : List Char} (h : EndsLine cs) (later : List Char) :
    Toml.lineBreak? (cs ++ later) = (Toml.lineBreak? cs).map (· ++ later) := by
  obtain ⟨c, cs, rfl⟩ := List.exists_cons_of_ne_nil h.ne_nil
  by_cases hfeed : c = '\n'
  · subst hfeed
    rfl
  · obtain ⟨d, cs, rfl⟩ := List.exists_cons_of_ne_nil (h.tail hfeed).ne_nil
    by_cases hreturn : c = '\r' ∧ d = '\n'
    · obtain ⟨rfl, rfl⟩ := hreturn
      rfl
    · have hnone (tail : List Char) : Toml.lineBreak? (c :: d :: tail) = none := by
        rw [Toml.lineBreak?.eq_def]
        split
        · next heq => exact absurd (List.cons.inj heq).1 hfeed
        · next heq =>
          obtain ⟨hc, heq⟩ := List.cons.inj heq
          exact absurd ⟨hc, (List.cons.inj heq).1⟩ hreturn
        · rfl
      rw [List.cons_append, List.cons_append, hnone, hnone]
      rfl

theorem multilineString?_eq (quote : Char) : multilineString? quote = fun cs =>
    (spanQuoted (multilineClosing? quote) (quote == '"') false ((lineBreak? cs).getD cs)).bind
      fun part => (decode quote true part.1).map fun text => (text, part.2) := by
  funext cs
  by_cases hquote : quote = '"' <;>
    simp [multilineString?, decode, hquote, Option.map_eq_bind, Option.bind_assoc]

private theorem continuable_multilineString? {quote : Char} (h : quote ≠ '\n') :
    Continuable (multilineString? quote) := by
  have hspan : Continuable fun cs =>
      (spanQuoted (multilineClosing? quote) (quote == '"') false cs).bind
        fun part => (decode quote true part.1).map fun text => (text, part.2) :=
    (continuable_spanQuoted (closes_multilineClosing? h) _ _).bind fun _ => continuable_map_pair _
  rw [multilineString?_eq]
  intro cs text rest hcs hread
  have happend (later : List Char) : (lineBreak? (cs ++ later)).getD (cs ++ later) =
      (lineBreak? cs).getD cs ++ later := by
    rw [hcs.lineBreak?_append]
    cases lineBreak? cs <;> rfl
  have hstart : WholeLines ((lineBreak? cs).getD cs) := by
    cases hbreak : lineBreak? cs with
    | none => exact .inr hcs
    | some after => exact hcs.lineBreak? hbreak
  dsimp only at hread ⊢
  rcases hstart with hnil | hstart
  · rw [hnil] at hread
    cases hread
  · simp only [happend]
    exact hspan hstart hread

theorem continuable_string? {quote : Char} (h : quote ≠ '\n') : Continuable (string? quote) := by
  intro cs text rest hcs hread
  obtain ⟨a, cs, rfl⟩ := List.exists_cons_of_ne_nil hcs.ne_nil
  cases cs with
  | nil =>
    have ha : a = '\n' := by simpa [EndsLine] using hcs
    have hquote : ¬('\n' = quote) := Ne.symm h
    subst ha
    simp [string?, lineString?, spanQuoted, closing?, hquote] at hread
  | cons b cs =>
    simp only [string?, List.cons_append] at hread ⊢
    split_ifs at hread ⊢ with hquotes
    · obtain ⟨rfl, rfl⟩ := hquotes
      exact continuable_multilineString? h ((hcs.tail h).tail h) hread
    · exact continuable_lineString? h hcs hread

end VersionCatalog.Toml
