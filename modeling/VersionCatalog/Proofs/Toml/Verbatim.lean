import Mathlib.Data.List.TakeWhile
import VersionCatalog.Proofs.Toml.SoundDraft
import VersionCatalog.Proofs.Toml.WholeLines
import VersionCatalog.Proofs.Toml.Within

namespace VersionCatalog.Toml

/-- A text that is one bare value from its first to its last character, and that value is a literal. -/
def IsLiteralText (cs : List Char) : Prop :=
  spanBare cs = (cs, []) ∧ ofBare? cs = some (.literal (String.ofList cs))

/-- A literal that is written somewhere in the text. -/
def IsTakenFrom (text : List Char) (raw : String) : Prop :=
  raw.toList <:+: text ∧ IsLiteralText raw.toList

/-- The time behind a date is all that is cut off after a blank. -/
theorem withTime_time {word after : List Char} {next : Char} (hdate : isDate word = true)
    (hnext : isBareChar next = true) : withTime word (' ' :: next :: after) =
      (word ++ ' ' :: next :: after.takeWhile isBareChar, after.dropWhile isBareChar) := by
  simp [withTime, hdate, hnext]

theorem withTime_cases (word rest : List Char) : withTime word rest = (word, rest) ∨
    ∃ next after, rest = ' ' :: next :: after ∧ isDate word = true ∧ isBareChar next = true := by
  rw [withTime.eq_def]
  split
  · rename_i next after
    split_ifs with htime
    · rw [Bool.and_eq_true] at htime
      exact .inr ⟨next, after, rfl, htime⟩
    · exact .inl rfl
  · exact .inl rfl

private theorem spanBare_of_bare {word : List Char} (h : ∀ c ∈ word, isBareChar c = true) :
    spanBare word = (word, []) := by
  rw [spanBare_eq, List.takeWhile_eq_self_iff.mpr h, List.dropWhile_eq_nil_iff.mpr h]
  rfl

/-- A bare value is cut off the text that it begins, and is cut off as a whole if it stands alone. -/
theorem spanBare_whole (cs : List Char) :
    (spanBare cs).1 ++ (spanBare cs).2 = cs ∧ spanBare (spanBare cs).1 = ((spanBare cs).1, []) := by
  have hword : ∀ c ∈ cs.takeWhile isBareChar, isBareChar c = true := fun _ => List.mem_takeWhile_imp
  have hcs := List.takeWhile_append_dropWhile (p := isBareChar) (l := cs)
  rw [spanBare_eq cs]
  generalize cs.takeWhile isBareChar = word, cs.dropWhile isBareChar = rest at hword hcs ⊢
  rcases withTime_cases word rest with hplain | ⟨next, after, rfl, hdate, hnext⟩
  · rw [hplain]
    exact ⟨hcs, spanBare_of_bare hword⟩
  · have hblank : isBareChar ' ' = false := by decide
    have htime : ∀ c ∈ after.takeWhile isBareChar, isBareChar c = true :=
      fun _ => List.mem_takeWhile_imp
    have hafter := List.takeWhile_append_dropWhile (p := isBareChar) (l := after)
    rw [withTime_time hdate hnext]
    constructor
    · simp [← hcs, hafter]
    · rw [spanBare_eq, List.takeWhile_append_of_pos hword, List.dropWhile_append_of_pos hword]
      generalize after.takeWhile isBareChar = time at htime
      simp [hblank, withTime_time hdate hnext, List.takeWhile_eq_self_iff.mpr htime,
        List.dropWhile_eq_nil_iff.mpr htime]

section Readers

variable {text : List Char}

private theorem readsWithin_ofBare? {word : List Char} (hword : word <:+: text)
    (hwhole : spanBare word = (word, [])) :
    ReadsWithin text (·.IsSound (IsTakenFrom text)) fun rest => (ofBare? word).map (·, rest) := by
  refine readsWithin_map_pair fun node hnode => ?_
  have hsame := hnode
  rw [ofBare?] at hnode
  split_ifs at hnode <;> cases hnode
  · exact Node.isSound_boolean true
  · exact Node.isSound_boolean false
  · apply Node.isSound_literal
    rw [IsTakenFrom, String.toList_ofList]
    exact ⟨hword, hwhole, hsame⟩

private theorem readsWithin_bare? : ReadsWithin text (·.IsSound (IsTakenFrom text)) bare? := by
  have hspan : ReadsWithin text (fun word => word <:+: text ∧ spanBare word = (word, []))
      fun cs => some (spanBare cs) := by
    intro cs word rest hcs h
    obtain ⟨hcut, hwhole⟩ := spanBare_whole cs
    rw [Option.some.inj h] at hcut hwhole
    have hword : word <+: cs := ⟨rest, hcut⟩
    have hrest : rest <:+ cs := ⟨word, hcut⟩
    exact ⟨hrest.trans hcs, hword.isInfix.trans hcs.isInfix, hwhole⟩
  rw [bare?_eq]
  exact hspan.bind fun word hword => readsWithin_ofBare? hword.1 hword.2

private theorem readsWithin_scalarValue? :
    ReadsWithin text (·.IsSound (IsTakenFrom text)) scalarValue? := by
  intro cs node rest hcs h
  cases cs with
  | nil => cases h
  | cons c cs =>
    rw [scalarValue?] at h
    split_ifs at h
    · have hstring : ReadsWithin text (·.IsSound (IsTakenFrom text)) fun cs =>
          (string? c cs).map fun part => (Node.string part.1, part.2) :=
        (readsWithin_string? c).map fun value _ => Node.isSound_string value
      exact hstring ((List.suffix_cons c cs).trans hcs) h
    · exact readsWithin_bare? hcs h

section Values

variable {P : String → Prop} {α : Type} {holds : α → Prop}
  {read : List Char → Option (Node × List Char)}

theorem ReadsWithin.afterItem {others : List Char → Option (List α × List Char)}
    (hothers : ReadsWithin text (∀ item ∈ ·, holds item) others) (close : Char) {item : α}
    (hitem : holds item) : ReadsWithin text (∀ item ∈ ·, holds item) (afterItem close others item) := by
  have hlast : ReadsWithin text (∀ item ∈ ·, holds item) fun rest => some ([item], rest) :=
    readsWithin_some (List.forall_mem_singleton.mpr hitem)
  have hmore : ReadsWithin text (∀ item ∈ ·, holds item) fun rest =>
      (others rest).map fun items => (item :: items.1, items.2) :=
    hothers.map fun items hitems => List.forall_mem_cons.mpr ⟨hitem, hitems⟩
  exact hlast.onHead close (hmore.onHead ',' readsWithin_none)

private theorem readsWithin_items? (hread : ReadsWithin text (·.IsSound P) read) (fuel : Nat) :
    ReadsWithin text (∀ item ∈ ·, item.IsSound P) (items? read fuel) := by
  induction fuel with
  | zero => exact readsWithin_none
  | succ fuel ih =>
    rw [items?_succ]
    have hnone : ReadsWithin text (∀ item ∈ ·, item.IsSound P) fun rest =>
        some (([] : List Node), rest) :=
      readsWithin_some (by simp)
    have hmore (item : Node) (hitem : item.IsSound P) := (ih.afterItem ']' hitem).behind_lines
    exact (hnone.onHead ']' (hread.bind hmore)).behind_lines

private theorem readsWithin_assignment? (hread : ReadsWithin text (·.IsSound P) read) :
    ReadsWithin text (·.2.IsSound P) (assignment? read) := by
  have hvalue (path : KeyPath) : ReadsWithin text (fun a : KeyPath × Node => a.2.IsSound P)
      fun rest => (read (skipBlanks rest)).map fun node => ((path, node.1), node.2) :=
    hread.behind_blanks.map fun _ hnode => hnode
  rw [assignment?_eq]
  exact readsWithin_keyPath?.bind fun path _ => (hvalue path).onHead '=' readsWithin_none

private theorem readsWithin_assignments? (hread : ReadsWithin text (·.IsSound P) read)
    (fuel : Nat) :
    ReadsWithin text (∀ a ∈ ·, a.2.IsSound P) (assignments? read fuel) := by
  induction fuel with
  | zero => exact readsWithin_none
  | succ fuel ih =>
    rw [assignments?_succ]
    exact (readsWithin_assignment? hread).bind fun a ha => (ih.afterItem '}' ha).behind_blanks

private theorem readsWithin_inlineTable? (hread : ReadsWithin text (·.IsSound P) read) :
    ReadsWithin text (·.IsSound P) (inlineTable? read) := by
  have htable (assignments : List (KeyPath × Node)) (h : ∀ a ∈ assignments, a.2.IsSound P) :
      ReadsWithin text (·.IsSound P) fun rest => (tableOf? assignments).map (·, rest) := by
    refine readsWithin_map_pair fun node hnode => ?_
    obtain ⟨entries, hentries, rfl⟩ := Option.map_eq_some_iff.mp hnode
    exact soundEntries_ofAssignments hentries soundEntries_nil h
  have hempty : ReadsWithin text (·.IsSound P) fun rest => some (Node.table [], rest) :=
    readsWithin_some soundEntries_nil
  have hall : ReadsWithin text (∀ a ∈ ·, a.2.IsSound P) fun cs => assignments? read cs.length cs :=
    fun cs _ _ hcs h => readsWithin_assignments? hread cs.length hcs h
  rw [inlineTable?_eq]
  exact (hempty.onHead '}' (hall.bind htable)).behind_blanks

/-- Values are sound, and their literals taken from the text, however deep these stand in arrays and
inline tables. -/
theorem readsWithin_value? (depth : Nat) :
    ReadsWithin text (·.IsSound (IsTakenFrom text)) (value? depth) := by
  induction depth with
  | zero => exact readsWithin_scalarValue?
  | succ depth ih =>
    have hitems : ReadsWithin text (∀ item ∈ ·, item.IsSound (IsTakenFrom text))
        fun cs => items? (value? depth) cs.length cs :=
      fun cs _ _ hcs h => readsWithin_items? ih cs.length hcs h
    have harray : ReadsWithin text (·.IsSound (IsTakenFrom text)) fun cs =>
        (items? (value? depth) cs.length cs).map fun items => (Node.array items.1, items.2) :=
      hitems.map fun _ h => Node.isSound_array.mpr h
    rw [value?_succ]
    exact harray.onHead '[' ((readsWithin_inlineTable? ih).onHead '{' readsWithin_scalarValue?)

end Values

private theorem skipComment_suffix (cs : List Char) : skipComment cs <:+ cs := by
  rw [skipComment.eq_def]
  split
  · exact (List.dropWhile_suffix _).trans (List.suffix_cons _ _)
  · exact List.suffix_rfl

private theorem lineEnd?_suffix {cs rest : List Char} (h : lineEnd? cs = some rest) :
    rest <:+ cs := by
  have hskip := (skipComment_suffix (skipBlanks cs)).trans (skipBlanks_suffix cs)
  rw [lineEnd?_eq, breakOrEnd?.eq_def] at h
  split at h
  · cases h
    exact List.nil_suffix
  · exact (lineBreak?_suffix h).trans hskip

private theorem readsWithin_lineEnd? {statement : Statement} {P : String → Prop}
    (h : statement.IsSound P) :
    ReadsWithin text (·.IsSound P) fun cs => (lineEnd? cs).map (statement, ·) := by
  intro cs a rest hcs hread
  obtain ⟨rest', hend, heq⟩ := Option.map_eq_some_iff.mp hread
  cases heq
  exact ⟨(lineEnd?_suffix hend).trans hcs, h⟩

private theorem readsWithin_read? :
    ReadsWithin text (·.IsSound (IsTakenFrom text)) Statement.read? := by
  have hassignment (a : KeyPath × Node) (h : a.2.IsSound (IsTakenFrom text)) :
      ReadsWithin text (·.IsSound (IsTakenFrom text)) fun rest =>
        (lineEnd? rest).map (Statement.assignment a.1 a.2, ·) :=
    readsWithin_lineEnd? h
  have htable (path : KeyPath) : ReadsWithin text (·.IsSound (IsTakenFrom text)) fun rest =>
      (lineEnd? rest).map (Statement.tableHeader path, ·) :=
    readsWithin_lineEnd? trivial
  have helement (path : KeyPath) : ReadsWithin text (·.IsSound (IsTakenFrom text)) fun rest =>
      (lineEnd? rest).map (Statement.elementHeader path, ·) :=
    readsWithin_lineEnd? trivial
  rw [Statement.read?_eq]
  have helements := readsWithin_keyPath?.bind fun path _ =>
    ((helement path).onHead ']' readsWithin_none).onHead ']' readsWithin_none
  have htables := readsWithin_keyPath?.bind fun path _ => (htable path).onHead ']' readsWithin_none
  exact (helements.onHead '[' htables).onHead '['
    ((readsWithin_assignment? (readsWithin_value? depthLimit)).bind hassignment)

private theorem isSound_of_readAll? {fuel : Nat} {cs : List Char} {statements : List Statement}
    (hcs : cs <:+ text) (h : Statement.readAll? fuel cs = some statements) :
    ∀ statement ∈ statements, statement.IsSound (IsTakenFrom text) := by
  induction fuel generalizing cs statements with
  | zero => cases h
  | succ fuel ih =>
    rw [Statement.readAll?] at h
    have hskip := (skipBlanks_suffix cs).trans hcs
    split at h
    · cases h
      simp
    · rename_i c line hline
      rw [hline] at hskip
      split at h
      · obtain ⟨rest, hend, h⟩ := Option.bind_eq_some_iff.mp h
        exact ih ((lineEnd?_suffix hend).trans hskip) h
      · obtain ⟨⟨statement, rest⟩, hstatement, h⟩ := Option.bind_eq_some_iff.mp h
        obtain ⟨others, hothers, heq⟩ := Option.bind_eq_some_iff.mp h
        cases heq
        obtain ⟨hrest, hsound⟩ := readsWithin_read? hskip hstatement
        exact List.forall_mem_cons.mpr ⟨hsound, ih hrest hothers⟩

private theorem isSound_of_ofText? {statements : List Statement}
    (h : Statement.ofText? text = some statements) :
    ∀ statement ∈ statements, statement.IsSound (IsTakenFrom text) := by
  rw [Statement.ofText?.eq_def] at h
  split at h
  · exact isSound_of_readAll? (List.suffix_cons _ _) h
  · exact isSound_of_readAll? List.suffix_rfl h

end Readers

/-- A document that has been read has no table with a key twice, and each of its literals is written
in its text and is a literal there from its first to its last character. -/
theorem isSound_of_parse? {text : String} {document : Node} (h : parse? text = some document) :
    document.IsSound (IsTakenFrom text.toList) := by
  obtain ⟨statements, htext, hstatements⟩ := Option.bind_eq_some_iff.mp h
  exact isSound_of_ofStatements? hstatements (isSound_of_ofText? htext)

theorem distinctKeys_of_parse? {text : String} {document : Node}
    (h : parse? text = some document) : document.DistinctKeys :=
  (isSound_of_parse? h).distinctKeys

theorem taken_of_parse? {text : String} {document : Node} (h : parse? text = some document) :
    document.LiteralsAre (IsTakenFrom text.toList) :=
  (isSound_of_parse? h).literalsAre

end VersionCatalog.Toml
