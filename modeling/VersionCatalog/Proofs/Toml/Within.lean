import VersionCatalog.Proofs.Toml.ContinuableValue

namespace VersionCatalog.Toml

/-- A reader that leaves an end of the text if it is given one, and reads only what `holds`. -/
def ReadsWithin {α : Type} (text : List Char) (holds : α → Prop)
    (read : List Char → Option (α × List Char)) : Prop :=
  ∀ ⦃cs a rest⦄, cs <:+ text → read cs = some (a, rest) → rest <:+ text ∧ holds a

section Combinators

variable {α β : Type} {text : List Char} {holds : α → Prop} {holds' : β → Prop}
  {read : List Char → Option (α × List Char)}

theorem readsWithin_map_pair {a : Option α} (h : ∀ b, a = some b → holds b) :
    ReadsWithin text holds fun rest => a.map (·, rest) := by
  intro cs b rest hcs hread
  obtain ⟨b, hb, heq⟩ := Option.map_eq_some_iff.mp hread
  cases heq
  exact ⟨hcs, h b hb⟩

theorem readsWithin_some {a : α} (h : holds a) : ReadsWithin text holds fun rest => some (a, rest) := by
  rintro cs _ _ hcs ⟨⟩
  exact ⟨hcs, h⟩

theorem readsWithin_none : ReadsWithin text holds fun _ => none := by
  intro _ _ _ _ h
  cases h

theorem ReadsWithin.bind (hread : ReadsWithin text holds read)
    {next : α → List Char → Option (β × List Char)}
    (hnext : ∀ a, holds a → ReadsWithin text holds' (next a)) :
    ReadsWithin text holds' fun cs => (read cs).bind fun part => next part.1 part.2 := by
  intro cs b rest hcs h
  obtain ⟨⟨a, middle⟩, ha, hb⟩ := Option.bind_eq_some_iff.mp h
  obtain ⟨hmiddle, hholds⟩ := hread hcs ha
  exact hnext a hholds hmiddle hb

theorem ReadsWithin.map (hread : ReadsWithin text holds read) {f : α → β}
    (hf : ∀ a, holds a → holds' (f a)) :
    ReadsWithin text holds' fun cs => (read cs).map fun part => (f part.1, part.2) := by
  simp only [Option.map_eq_bind]
  exact hread.bind fun a ha => readsWithin_some (hf a ha)

theorem ReadsWithin.onHead {otherwise : List Char → Option (α × List Char)}
    (hread : ReadsWithin text holds read) (c : Char)
    (hotherwise : ReadsWithin text holds otherwise) :
    ReadsWithin text holds (onHead c read otherwise) := by
  intro cs a rest hcs h
  cases cs with
  | nil => exact hotherwise hcs h
  | cons d cs =>
    rw [Toml.onHead] at h
    split_ifs at h
    · exact hread ((List.suffix_cons d cs).trans hcs) h
    · exact hotherwise hcs h

theorem ReadsWithin.behind (hread : ReadsWithin text holds read) {skip : List Char → List Char}
    (hskip : ∀ cs, skip cs <:+ cs) : ReadsWithin text holds fun cs => read (skip cs) :=
  fun cs _ _ hcs h => hread ((hskip cs).trans hcs) h

theorem skipBlanks_suffix (cs : List Char) : skipBlanks cs <:+ cs :=
  List.dropWhile_suffix _

private theorem skipLines_suffix (inComment : Bool) (cs : List Char) :
    skipLines inComment cs <:+ cs := by
  fun_induction skipLines inComment cs with
  | case1 => exact List.suffix_rfl
  | case2 inComment rest ih => exact ih.trans ((List.suffix_cons _ _).trans (List.suffix_cons _ _))
  | case3 inComment rest _ ih => exact ih.trans (List.suffix_cons _ _)
  | case4 c rest _ _ _ ih => exact ih.trans (List.suffix_cons _ _)
  | case5 => exact List.suffix_rfl
  | case6 inComment c rest _ _ _ _ ih => exact ih.trans (List.suffix_cons _ _)
  | case7 inComment rest _ _ _ _ ih => exact ih.trans (List.suffix_cons _ _)
  | case8 => exact List.suffix_rfl

theorem ReadsWithin.behind_blanks (hread : ReadsWithin text holds read) :
    ReadsWithin text holds fun cs => read (skipBlanks cs) :=
  hread.behind skipBlanks_suffix

theorem ReadsWithin.behind_lines (hread : ReadsWithin text holds read) :
    ReadsWithin text holds fun cs => read (skipLines false cs) :=
  hread.behind (skipLines_suffix false)

private theorem readsWithin_span (p : Char → Bool) :
    ReadsWithin text (fun _ => True) fun cs => some (cs.takeWhile p, cs.dropWhile p) := by
  rintro cs _ _ hcs ⟨⟩
  exact ⟨(List.dropWhile_suffix p).trans hcs, trivial⟩

end Combinators

section Strings

variable {text : List Char}

/-- A reader of the end of a string that leaves an end of what it is given. -/
def ClosesWithin (close? : List Char → Option (List Char × List Char)) : Prop :=
  ∀ ⦃cs last rest⦄, close? cs = some (last, rest) → rest <:+ cs

private theorem closesWithin_closing? (quote : Char) : ClosesWithin (closing? quote) := by
  intro cs last rest h
  cases cs with
  | nil => cases h
  | cons c cs =>
    rw [closing?] at h
    split_ifs at h
    cases h
    exact List.suffix_cons _ _

private theorem closesWithin_multilineClosing? (quote : Char) :
    ClosesWithin (multilineClosing? quote) := by
  intro cs last rest h
  rw [multilineClosing?] at h
  split_ifs at h
  cases h
  exact List.drop_suffix _ _

private theorem readsWithin_spanQuoted {close? : List Char → Option (List Char × List Char)}
    (hclose : ClosesWithin close?) (hasEscapes escaped : Bool) :
    ReadsWithin text (fun _ => True) (spanQuoted close? hasEscapes escaped) := by
  intro cs body rest hcs h
  refine ⟨?_, trivial⟩
  induction cs generalizing escaped body with
  | nil => cases h
  | cons c cs ih =>
    rw [spanQuoted] at h
    split at h
    · rename_i closed hclosed
      cases h
      cases escaped with
      | true => cases hclosed
      | false => exact (hclose hclosed).trans hcs
    · obtain ⟨⟨others, rest'⟩, hothers, heq⟩ := Option.bind_eq_some_iff.mp h
      cases heq
      exact ih _ ((List.suffix_cons c cs).trans hcs) hothers

theorem lineBreak?_suffix {cs rest : List Char} (h : lineBreak? cs = some rest) : rest <:+ cs := by
  revert h
  fun_cases lineBreak? cs with
  | case1 rest' =>
    rintro ⟨⟩
    exact List.suffix_cons _ _
  | case2 rest' =>
    rintro ⟨⟩
    exact (List.suffix_cons _ _).trans (List.suffix_cons _ _)
  | case3 => rintro ⟨⟩

private theorem readsWithin_lineString? (quote : Char) :
    ReadsWithin text (fun _ => True) (lineString? quote) := by
  rw [lineString?_eq]
  exact (readsWithin_spanQuoted (closesWithin_closing? quote) _ _).bind fun _ _ =>
    readsWithin_map_pair fun _ _ => trivial

private theorem readsWithin_multilineString? (quote : Char) :
    ReadsWithin text (fun _ => True) (multilineString? quote) := by
  have hbreak (cs : List Char) : (lineBreak? cs).getD cs <:+ cs := by
    cases hrest : lineBreak? cs with
    | none => exact List.suffix_rfl
    | some rest => exact lineBreak?_suffix hrest
  rw [multilineString?_eq]
  exact ((readsWithin_spanQuoted (closesWithin_multilineClosing? quote) _ _).behind hbreak).bind
    fun _ _ => readsWithin_map_pair fun _ _ => trivial

theorem readsWithin_string? (quote : Char) :
    ReadsWithin text (fun _ => True) (string? quote) := by
  intro cs value rest hcs h
  rw [string?.eq_def] at h
  split at h
  · rename_i a b cs
    split_ifs at h
    · exact readsWithin_multilineString? quote
        (((List.suffix_cons _ _).trans (List.suffix_cons _ _)).trans hcs) h
    · exact readsWithin_lineString? quote hcs h
  · exact readsWithin_lineString? quote hcs h

end Strings

section Keys

variable {text : List Char}

private theorem readsWithin_key? : ReadsWithin text (fun _ => True) key? := by
  have hword : ReadsWithin text (fun _ => True) fun cs : List Char =>
      (some (cs.takeWhile isBareKeyChar, cs.dropWhile isBareKeyChar)).bind
        fun part => (bareKey? part.1).map (·, part.2) :=
    (readsWithin_span isBareKeyChar).bind fun _ _ => readsWithin_map_pair fun _ _ => trivial
  intro cs key rest hcs h
  cases cs with
  | nil => cases h
  | cons c cs =>
    rw [key?_cons] at h
    split_ifs at h
    · exact readsWithin_lineString? c ((List.suffix_cons c cs).trans hcs) h
    · exact hword hcs h

private theorem readsWithin_keys? (fuel : Nat) : ReadsWithin text (fun _ => True) (keys? fuel) := by
  induction fuel with
  | zero => exact readsWithin_none
  | succ fuel ih =>
    rw [keys?_succ]
    have hothers (key : String) : ReadsWithin text (fun _ : List String => True) fun rest =>
        (keys? fuel rest).map fun others => (key :: others.1, others.2) :=
      ih.map fun _ _ => trivial
    have hlast (key : String) : ReadsWithin text (fun _ : List String => True) fun rest =>
        some ([key], rest) :=
      readsWithin_some trivial
    exact readsWithin_key?.behind_blanks.bind fun key _ =>
      ((hothers key).onHead '.' (hlast key)).behind_blanks

theorem readsWithin_keyPath? : ReadsWithin text (fun _ => True) keyPath? := by
  rw [keyPath?_eq]
  exact (readsWithin_keys? KeyPath.limit).bind fun _ _ => readsWithin_map_pair fun _ _ => trivial

end Keys

end VersionCatalog.Toml
