import Mathlib.Data.List.TakeDrop
import Mathlib.Tactic.SplitIfs
import VersionCatalog.Toml.Spacing

namespace VersionCatalog.Toml

/-- A text that ends with a line feed. -/
def EndsLine (cs : List Char) : Prop :=
  cs.getLast? = some '\n'

instance (cs : List Char) : Decidable (EndsLine cs) :=
  inferInstanceAs (Decidable (cs.getLast? = some '\n'))

theorem not_endsLine_nil : ¬EndsLine [] := by
  simp [EndsLine]

theorem EndsLine.ne_nil {cs : List Char} (h : EndsLine cs) : cs ≠ [] := by
  rintro rfl
  exact not_endsLine_nil h

theorem EndsLine.tail {c : Char} {cs : List Char} (h : EndsLine (c :: cs)) (hc : c ≠ '\n') :
    EndsLine cs := by
  cases cs with
  | nil => exact absurd (by simpa [EndsLine] using h) hc
  | cons d cs => simpa [EndsLine] using h

/-- A text of whole lines. -/
def WholeLines (cs : List Char) : Prop :=
  cs = [] ∨ EndsLine cs

instance (cs : List Char) : Decidable (WholeLines cs) :=
  inferInstanceAs (Decidable (cs = [] ∨ EndsLine cs))

theorem EndsLine.wholeLines_tail {c : Char} {cs : List Char} (h : EndsLine (c :: cs)) :
    WholeLines cs := by
  cases cs with
  | nil => exact .inl rfl
  | cons d cs => exact .inr (by simpa [EndsLine] using h)

/-- A reader that reads the same from a text that ends with a line feed and from one that goes on. It
stops where something holds of what is left of the text. -/
def ContinuableTo {α : Type} (stop : List Char → Prop)
    (read : List Char → Option (α × List Char)) : Prop :=
  ∀ ⦃cs a rest⦄, EndsLine cs → read cs = some (a, rest) →
    stop rest ∧ ∀ later, read (cs ++ later) = some (a, rest ++ later)

/-- A reader that reads the same if the text goes on, and that stops before the last line feed. -/
def Continuable {α : Type} (read : List Char → Option (α × List Char)) : Prop :=
  ContinuableTo EndsLine read

section Readers

variable {α β : Type} {stop : List Char → Prop}

theorem continuable_map_pair (a : Option α) : Continuable fun rest => a.map (·, rest) := by
  intro cs b rest hcs h
  obtain ⟨b, hb, heq⟩ := Option.map_eq_some_iff.mp h
  cases heq
  exact ⟨hcs, fun later => by simp [hb]⟩

theorem continuable_some (a : α) : Continuable fun rest => some (a, rest) :=
  continuable_map_pair (some a)

theorem continuableTo_none : ContinuableTo stop fun _ => (none : Option (α × List Char)) := by
  intro _ _ _ _ h
  cases h

/-- One reader after the other, of which the second one may depend on what the first one has read. -/
theorem ContinuableTo.bind {read : List Char → Option (α × List Char)}
    (hread : ContinuableTo EndsLine read)
    {next : α → List Char → Option (β × List Char)} (hnext : ∀ a, ContinuableTo stop (next a)) :
    ContinuableTo stop fun cs => (read cs).bind fun part => next part.1 part.2 := by
  intro cs b rest hcs h
  obtain ⟨⟨a, middle⟩, ha, hb⟩ := Option.bind_eq_some_iff.mp h
  obtain ⟨hmiddle, hmore⟩ := hread hcs ha
  obtain ⟨hrest, hmore'⟩ := hnext a hmiddle hb
  refine ⟨hrest, ?_⟩
  intro later
  simp only [hmore later, Option.bind_some, hmore' later]

theorem ContinuableTo.map {read : List Char → Option (α × List Char)}
    (hread : ContinuableTo EndsLine read) (f : α → β) :
    Continuable fun cs => (read cs).map fun part => (f part.1, part.2) := by
  simp only [Option.map_eq_bind]
  exact hread.bind fun a => continuable_some (f a)

/-- Reads on behind a character if it comes first, and reads otherwise if not. -/
def onHead (c : Char) (read otherwise : List Char → Option (α × List Char)) :
    List Char → Option (α × List Char)
  | [] => otherwise []
  | d :: rest => if d = c then read rest else otherwise (d :: rest)

@[simp] theorem onHead_self (c : Char) (read otherwise : List Char → Option (α × List Char))
    (rest : List Char) : onHead c read otherwise (c :: rest) = read rest :=
  if_pos rfl

theorem onHead_of_ne {c : Char} {cs : List Char} (h : ∀ rest, cs ≠ c :: rest)
    (read otherwise : List Char → Option (α × List Char)) :
    onHead c read otherwise cs = otherwise cs := by
  cases cs with
  | nil => rfl
  | cons d cs =>
    have hd : d ≠ c := by
      rintro rfl
      exact h cs rfl
    exact if_neg hd

theorem ContinuableTo.onHead {read otherwise : List Char → Option (α × List Char)}
    (hread : ContinuableTo stop read) (c : Char) (hc : c ≠ '\n')
    (hotherwise : ContinuableTo stop otherwise) : ContinuableTo stop (onHead c read otherwise) := by
  intro cs a rest hcs h
  cases cs with
  | nil => exact absurd hcs not_endsLine_nil
  | cons d cs =>
    simp only [Toml.onHead, List.cons_append] at h ⊢
    split_ifs at h ⊢ with hd
    · exact hread (hcs.tail (hd ▸ hc)) h
    · exact hotherwise hcs h

end Readers

section Spans

variable {p : Char → Bool} {cs : List Char}

theorem EndsLine.dropWhile (h : EndsLine cs) (hp : p '\n' = false) : EndsLine (cs.dropWhile p) := by
  induction cs with
  | nil => exact absurd h not_endsLine_nil
  | cons c cs ih =>
    rw [List.dropWhile_cons]
    split_ifs with hc
    · apply ih
      apply h.tail
      rintro rfl
      simp [hp] at hc
    · exact h

theorem EndsLine.dropWhile_append (h : EndsLine cs) (hp : p '\n' = false) (later : List Char) :
    (cs ++ later).dropWhile p = cs.dropWhile p ++ later := by
  have hfull : ¬(cs.dropWhile p).isEmpty = true := by simpa using (h.dropWhile hp).ne_nil
  rw [List.dropWhile_append, if_neg hfull]

theorem EndsLine.takeWhile_append (h : EndsLine cs) (hp : p '\n' = false) (later : List Char) :
    (cs ++ later).takeWhile p = cs.takeWhile p := by
  induction cs with
  | nil => exact absurd h not_endsLine_nil
  | cons c cs ih =>
    rw [List.cons_append, List.takeWhile_cons, List.takeWhile_cons]
    split_ifs with hc
    · rw [ih]
      apply h.tail
      rintro rfl
      simp [hp] at hc
    · rfl

theorem EndsLine.skipBlanks (h : EndsLine cs) : EndsLine (skipBlanks cs) :=
  h.dropWhile (by decide)

theorem EndsLine.skipBlanks_append (h : EndsLine cs) (later : List Char) :
    Toml.skipBlanks (cs ++ later) = Toml.skipBlanks cs ++ later :=
  h.dropWhile_append (by decide) later

end Spans

theorem continuable_span {p : Char → Bool} (hp : p '\n' = false) :
    Continuable fun cs => some (cs.takeWhile p, cs.dropWhile p) := by
  rintro cs _ _ hcs ⟨⟩
  refine ⟨hcs.dropWhile hp, ?_⟩
  intro later
  simp only [hcs.takeWhile_append hp, hcs.dropWhile_append hp]

theorem ContinuableTo.behind_blanks {α : Type} {stop : List Char → Prop}
    {read : List Char → Option (α × List Char)} (hread : ContinuableTo stop read) :
    ContinuableTo stop fun cs => read (skipBlanks cs) := by
  intro cs a rest hcs h
  obtain ⟨hrest, hmore⟩ := hread hcs.skipBlanks h
  refine ⟨hrest, ?_⟩
  intro later
  simp only [hcs.skipBlanks_append, hmore]

/-- What does not break the line is passed over, or not, in the same way however the text goes on. -/
theorem skipLines_cons_append {inComment : Bool} {c : Char} {cs : List Char} (hcs : EndsLine cs)
    (hreturn : ∀ rest, c = '\r' → cs = '\n' :: rest → False) (hfeed : c ≠ '\n')
    (later : List Char) : skipLines inComment (c :: cs ++ later) =
      if inComment then
        if isTextChar c then skipLines true (cs ++ later) else c :: cs ++ later
      else if isBlankChar c then skipLines false (cs ++ later)
      else if c = '#' then skipLines true (cs ++ later)
      else c :: cs ++ later := by
  obtain ⟨d, cs, rfl⟩ : ∃ d rest, cs = d :: rest :=
    List.exists_cons_of_ne_nil hcs.ne_nil
  rw [skipLines.eq_def]
  split
  · next heq => cases heq
  · next heq =>
    obtain ⟨hc, heq⟩ := List.cons.inj heq
    obtain ⟨rfl, -⟩ := List.cons.inj heq
    exact (hreturn cs hc rfl).elim
  · next heq =>
    cases heq
    rw [if_neg hfeed]
    rfl

/-- Lines are passed over as far as the text goes, or up to something that stays there if it goes on. -/
def PassesLines (inComment : Bool) (cs : List Char) : Prop :=
  skipLines inComment cs = [] ∨ (EndsLine (skipLines inComment cs) ∧
    ∀ later, skipLines inComment (cs ++ later) = skipLines inComment cs ++ later)

theorem PassesLines.of_stop {inComment : Bool} {cs : List Char} (hcs : EndsLine cs)
    (h : ∀ later, skipLines inComment (cs ++ later) = cs ++ later) : PassesLines inComment cs := by
  have hself : skipLines inComment cs = cs := by simpa using h []
  refine .inr ⟨by rwa [hself], ?_⟩
  intro later
  rw [h, hself]

theorem PassesLines.of_skip {inComment inComment' : Bool} {cs rest : List Char}
    (h : ∀ later, skipLines inComment (cs ++ later) = skipLines inComment' (rest ++ later))
    (hrest : rest = [] ∨ PassesLines inComment' rest) : PassesLines inComment cs := by
  have hself : skipLines inComment cs = skipLines inComment' rest := by simpa using h []
  rcases hrest with rfl | hempty | ⟨hends, hmore⟩
  · exact .inl hself
  · exact .inl (hself.trans hempty)
  · refine .inr ⟨hself ▸ hends, ?_⟩
    intro later
    rw [h, hmore, hself]

theorem EndsLine.passesLines {cs : List Char} (h : EndsLine cs) (inComment : Bool) :
    PassesLines inComment cs := by
  fun_induction skipLines inComment cs with
  | case1 => exact absurd h not_endsLine_nil
  | case2 inComment rest ih =>
    have hrest : WholeLines rest := (h.tail (by decide)).wholeLines_tail
    have hskip (later : List Char) : skipLines inComment ('\r' :: '\n' :: rest ++ later) =
        skipLines false (rest ++ later) := rfl
    exact .of_skip hskip (hrest.imp_right ih)
  | case3 inComment rest hreturn ih =>
    exact .of_skip (fun later => by simp [skipLines]) (h.wholeLines_tail.imp_right ih)
  | case4 c rest hreturn hfeed htext ih =>
    have hrest := h.tail hfeed
    refine .of_skip (fun later => ?_) (.inr (ih hrest))
    rw [skipLines_cons_append hrest hreturn hfeed, if_pos rfl, if_pos htext]
  | case5 c rest hreturn hfeed htext =>
    have hrest := h.tail hfeed
    refine .of_stop h fun later => ?_
    rw [skipLines_cons_append hrest hreturn hfeed, if_pos rfl, if_neg htext]
  | case6 inComment c rest hreturn hfeed hcode hblank ih =>
    have hrest := h.tail hfeed
    refine .of_skip (fun later => ?_) (.inr (ih hrest))
    rw [skipLines_cons_append hrest hreturn hfeed, if_neg hcode, if_pos hblank]
  | case7 inComment rest hcode hreturn hfeed hblank ih =>
    have hrest := h.tail hfeed
    refine .of_skip (fun later => ?_) (.inr (ih hrest))
    rw [skipLines_cons_append hrest hreturn hfeed, if_neg hcode, if_neg hblank, if_pos rfl]
  | case8 inComment c rest hreturn hfeed hcode hblank hmark =>
    have hrest := h.tail hfeed
    refine .of_stop h fun later => ?_
    rw [skipLines_cons_append hrest hreturn hfeed, if_neg hcode, if_neg hblank, if_neg hmark]

theorem ContinuableTo.behind_lines {α : Type} {stop : List Char → Prop}
    {read : List Char → Option (α × List Char)} (hread : ContinuableTo stop read)
    (hnil : read [] = none) : ContinuableTo stop fun cs => read (skipLines false cs) := by
  intro cs a rest hcs h
  dsimp only at h ⊢
  rcases hcs.passesLines false with hempty | ⟨hends, hmore⟩
  · rw [hempty, hnil] at h
    cases h
  · obtain ⟨hrest, hmore'⟩ := hread hends h
    refine ⟨hrest, ?_⟩
    intro later
    rw [hmore, hmore']

/-- A reader that reads all that another one reads, as one with more fuel does. -/
def Extends {α : Type} (read read' : List Char → Option (α × List Char)) : Prop :=
  ∀ ⦃cs part⦄, read cs = some part → read' cs = some part

section Extends

variable {α β : Type}

theorem Extends.refl (read : List Char → Option (α × List Char)) : Extends read read :=
  fun _ _ h => h

theorem Extends.map {read read' : List Char → Option (α × List Char)} (h : Extends read read')
    (f : α → β) : Extends (fun cs => (read cs).map fun part => (f part.1, part.2))
      fun cs => (read' cs).map fun part => (f part.1, part.2) := by
  intro cs part hread
  obtain ⟨part', hpart, heq⟩ := Option.map_eq_some_iff.mp hread
  exact Option.map_eq_some_iff.mpr ⟨part', h hpart, heq⟩

theorem Extends.bind {next next' : α → List Char → Option (β × List Char)}
    (h : ∀ a, Extends (next a) (next' a)) (read : List Char → Option (α × List Char)) :
    Extends (fun cs => (read cs).bind fun part => next part.1 part.2)
      fun cs => (read cs).bind fun part => next' part.1 part.2 := by
  intro cs part hread
  obtain ⟨part', hpart, hnext⟩ := Option.bind_eq_some_iff.mp hread
  exact Option.bind_eq_some_iff.mpr ⟨part', hpart, h _ hnext⟩

theorem Extends.onHead {read read' otherwise otherwise' : List Char → Option (α × List Char)}
    (h : Extends read read') (c : Char) (hotherwise : Extends otherwise otherwise') :
    Extends (onHead c read otherwise) (onHead c read' otherwise') := by
  intro cs part hread
  cases cs with
  | nil => exact hotherwise hread
  | cons d cs =>
    rw [Toml.onHead] at hread ⊢
    split_ifs at hread ⊢ with hd
    · exact h hread
    · exact hotherwise hread

/-- A continuable reader remains so if its fuel is as long as the text. -/
theorem continuable_length {read : Nat → List Char → Option (α × List Char)}
    (hread : ∀ fuel, Continuable (read fuel)) (hmore : ∀ fuel, Extends (read fuel) (read (fuel + 1))) :
    Continuable fun cs => read cs.length cs := by
  have hmono {fuel fuel' : Nat} (h : fuel ≤ fuel') : Extends (read fuel) (read fuel') := by
    induction h with
    | refl => exact .refl _
    | step _ ih => exact fun cs part hpart => hmore _ (ih hpart)
  intro cs a rest hcs h
  obtain ⟨hrest, hlater⟩ := hread cs.length hcs h
  refine ⟨hrest, ?_⟩
  intro later
  exact hmono (by simp) (hlater later)

end Extends

end VersionCatalog.Toml
