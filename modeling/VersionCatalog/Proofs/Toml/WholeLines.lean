import VersionCatalog.Proofs.Toml.ContinuableValue
import VersionCatalog.Proofs.Toml.WrittenDocument

namespace VersionCatalog.Toml

/-- The text after a comment, if it begins with one. -/
def skipComment : List Char → List Char
  | '#' :: comment => comment.dropWhile isTextChar
  | cs => cs

theorem EndsLine.skipComment {cs : List Char} (h : EndsLine cs) :
    EndsLine (skipComment cs) ∧ ∀ later, Toml.skipComment (cs ++ later) = Toml.skipComment cs ++ later := by
  have htext : isTextChar '\n' = false := by decide
  cases cs with
  | nil => exact absurd h not_endsLine_nil
  | cons c cs =>
    by_cases hc : c = '#'
    · subst hc
      have hcs : EndsLine cs := h.tail (by decide)
      exact ⟨hcs.dropWhile htext, hcs.dropWhile_append htext⟩
    · have hself (tail : List Char) : Toml.skipComment (c :: tail) = c :: tail := by
        simp [Toml.skipComment, hc]
      rw [hself]
      exact ⟨h, fun later => hself (cs ++ later)⟩

/-- The text after a line break, or after the end of the document. -/
def breakOrEnd? : List Char → Option (List Char)
  | [] => some []
  | cs => lineBreak? cs

private theorem breakOrEnd?_of_ne_nil {cs : List Char} (h : cs ≠ []) :
    breakOrEnd? cs = lineBreak? cs := by
  obtain ⟨c, cs, rfl⟩ := List.exists_cons_of_ne_nil h
  rfl

theorem lineEnd?_eq (cs : List Char) : lineEnd? cs = breakOrEnd? (skipComment (skipBlanks cs)) :=
  rfl

theorem EndsLine.lineEnd? {cs rest : List Char} (h : EndsLine cs) (hend : lineEnd? cs = some rest) :
    WholeLines rest ∧ ∀ later, Toml.lineEnd? (cs ++ later) = some (rest ++ later) := by
  obtain ⟨hends, hmore⟩ := h.skipBlanks.skipComment
  rw [lineEnd?_eq, breakOrEnd?_of_ne_nil hends.ne_nil] at hend
  refine ⟨hends.lineBreak? hend, ?_⟩
  intro later
  have hskip : Toml.skipComment (Toml.skipBlanks (cs ++ later)) =
      Toml.skipComment (Toml.skipBlanks cs) ++ later := by
    rw [h.skipBlanks_append, hmore]
  have hfull : Toml.skipComment (Toml.skipBlanks cs) ++ later ≠ [] := by simp [hends.ne_nil]
  rw [lineEnd?_eq, hskip, breakOrEnd?_of_ne_nil hfull, hends.lineBreak?_append, hend]
  rfl

private theorem continuableTo_lineEnd? {α : Type} (a : α) :
    ContinuableTo WholeLines fun cs => (lineEnd? cs).map (a, ·) := by
  intro cs b rest hcs h
  obtain ⟨rest', hend, heq⟩ := Option.map_eq_some_iff.mp h
  cases heq
  obtain ⟨hrest, hmore⟩ := hcs.lineEnd? hend
  refine ⟨hrest, ?_⟩
  intro later
  simp only [hmore, Option.map_some]

namespace Statement

theorem read?_eq : read? = onHead '['
    (onHead '['
      (fun cs => (keyPath? cs).bind fun path =>
        onHead ']' (onHead ']' (fun rest => (lineEnd? rest).map (elementHeader path.1, ·))
          fun _ => none) (fun _ => none) path.2)
      (fun cs => (keyPath? cs).bind fun path =>
        onHead ']' (fun rest => (lineEnd? rest).map (tableHeader path.1, ·)) (fun _ => none) path.2))
    (fun cs => (assignment? (value? depthLimit) cs).bind fun part =>
      (lineEnd? part.2).map (assignment part.1.1 part.1.2, ·)) := by
  funext cs
  rw [read?.eq_def]
  split
  · rw [onHead_self, onHead_self]
    show Option.bind _ _ = _
    congr 1
    funext path
    dsimp only
    split
    · next heq => rw [heq, onHead_self, onHead_self]
    · next hne =>
      by_cases hclose : ∃ rest, path.2 = ']' :: rest
      · obtain ⟨rest, heq⟩ := hclose
        rw [heq, onHead_self, onHead_of_ne]
        rintro rest' rfl
        exact hne rest' heq
      · rw [onHead_of_ne fun rest heq => hclose ⟨rest, heq⟩]
  · next hne =>
    rw [onHead_self, onHead_of_ne fun rest heq => hne rest (by rw [heq])]
    show Option.bind _ _ = _
    congr 1
    funext path
    dsimp only
    split
    · next heq => rw [heq, onHead_self]
    · next hclose => rw [onHead_of_ne hclose]
  · next hne =>
    rw [onHead_of_ne hne]
    rfl

private theorem continuableTo_read? : ContinuableTo WholeLines read? := by
  have hnone : ContinuableTo WholeLines fun _ => (none : Option (Statement × List Char)) :=
    continuableTo_none
  have helement (path : KeyPath) := ((continuableTo_lineEnd? (elementHeader path)).onHead ']'
    (by decide) hnone).onHead ']' (by decide) hnone
  have htable (path : KeyPath) := (continuableTo_lineEnd? (tableHeader path)).onHead ']'
    (by decide) hnone
  have hassignment := (continuable_assignment? (continuable_value? depthLimit)).bind
    fun part => continuableTo_lineEnd? (assignment part.1 part.2)
  rw [read?_eq]
  exact (((continuable_keyPath?.bind helement).onHead '[' (by decide)
    (continuable_keyPath?.bind htable)).onHead '[' (by decide) hassignment)

private theorem readAll?_mono {fuel fuel' : Nat} {cs : List Char} {statements : List Statement}
    (h : readAll? fuel cs = some statements) (hfuel : fuel ≤ fuel') :
    readAll? fuel' cs = some statements := by
  induction fuel generalizing fuel' cs statements with
  | zero => cases h
  | succ fuel ih =>
    obtain ⟨fuel', rfl⟩ := Nat.exists_eq_succ_of_ne_zero (Nat.ne_of_gt (Nat.zero_lt_of_lt hfuel))
    have hle : fuel ≤ fuel' := Nat.le_of_succ_le_succ hfuel
    rw [readAll?] at h ⊢
    cases hcs : skipBlanks cs with
    | nil => rwa [hcs] at h
    | cons c cs =>
      rw [hcs] at h
      dsimp only at h ⊢
      split_ifs at h ⊢ with hblank
      · obtain ⟨rest, hrest, hread⟩ := Option.bind_eq_some_iff.mp h
        exact Option.bind_eq_some_iff.mpr ⟨rest, hrest, ih hread hle⟩
      · obtain ⟨⟨statement, rest⟩, hfirst, hread⟩ := Option.bind_eq_some_iff.mp h
        obtain ⟨others, hothers, hall⟩ := Option.bind_eq_some_iff.mp hread
        exact Option.bind_eq_some_iff.mpr ⟨_, hfirst,
          Option.bind_eq_some_iff.mpr ⟨others, ih hothers hle, hall⟩⟩

/-- A text is read a line at a time, and a line is read as it is alone if other lines follow it. -/
theorem readAll?_line {fuel : Nat} {cs : List Char} {statements : List Statement} (hcs : EndsLine cs)
    (h : readAll? (fuel + 1) cs = some statements) :
    ∃ (rest : List Char) (first others : List Statement), WholeLines rest ∧
      readAll? fuel rest = some others ∧ statements = first ++ others ∧
      ∀ {fuel' : Nat} {later : List Char} {all : List Statement},
        readAll? fuel' (rest ++ later) = some all →
          readAll? (fuel' + 1) (cs ++ later) = some (first ++ all) := by
  have hskip := hcs.skipBlanks
  have happend := hcs.skipBlanks_append
  rw [readAll?] at h
  cases hline : skipBlanks cs with
  | nil => exact absurd (hline ▸ hskip) not_endsLine_nil
  | cons c line =>
    rw [hline] at h hskip happend
    dsimp only at h
    split_ifs at h with hblank
    · obtain ⟨rest, hend, hothers⟩ := Option.bind_eq_some_iff.mp h
      obtain ⟨hrest, hmore⟩ := hskip.lineEnd? hend
      refine ⟨rest, [], statements, hrest, hothers, rfl, ?_⟩
      intro fuel' later all hall
      have hmore := hmore later
      rw [List.cons_append] at hmore
      rw [readAll?, happend, List.cons_append]
      simp [hblank, hmore, hall]
    · obtain ⟨⟨statement, rest⟩, hread, h⟩ := Option.bind_eq_some_iff.mp h
      obtain ⟨others, hothers, heq⟩ := Option.bind_eq_some_iff.mp h
      cases heq
      obtain ⟨hrest, hmore⟩ := continuableTo_read? hskip hread
      refine ⟨rest, [statement], others, hrest, hothers, rfl, ?_⟩
      intro fuel' later all hall
      have hmore := hmore later
      rw [List.cons_append] at hmore
      rw [readAll?, happend, List.cons_append]
      simp [hblank, hmore, hall]

private theorem readAll?_append {fuel fuel' : Nat} {cs later : List Char}
    {statements others : List Statement}
    (hcs : WholeLines cs) (h : readAll? (fuel + 1) cs = some statements)
    (hlater : readAll? fuel' later = some others) :
    readAll? (fuel + fuel') (cs ++ later) = some (statements ++ others) := by
  -- the end of the first text takes a unit of fuel that the whole text does not need
  induction fuel generalizing cs statements with
  | zero =>
    rcases hcs with rfl | hcs
    · cases h
      simpa using hlater
    · obtain ⟨rest, first, others', -, hrest, -⟩ := readAll?_line hcs h
      cases hrest
  | succ fuel ih =>
    rcases hcs with rfl | hcs
    · cases h
      exact readAll?_mono hlater (Nat.le_add_left _ _)
    · obtain ⟨rest, first, others', hlines, hrest, rfl, hline⟩ := readAll?_line hcs h
      rw [List.append_assoc, Nat.succ_add]
      exact hline (ih hlines hrest)

/-- A valid text of whole lines may be followed by another one, which does not begin with a mark that
only a document may begin with. -/
theorem ofText?_append {text later : List Char} {statements others : List Statement}
    (htext : WholeLines text) (h : ofText? text = some statements)
    (hmark : later.head? ≠ some '\uFEFF') (hlater : ofText? later = some others) :
    ofText? (text ++ later) = some (statements ++ others) := by
  rw [ofText?_of_head?_ne hmark] at hlater
  have happend {cs : List Char} (hcs : WholeLines cs)
      (hread : readAll? (cs.length + 1) cs = some statements) :
      readAll? ((cs ++ later).length + 1) (cs ++ later) = some (statements ++ others) := by
    rw [List.length_append, Nat.add_assoc]
    exact readAll?_append hcs hread hlater
  by_cases hstart : text.head? = some '\uFEFF'
  · obtain ⟨cs, rfl⟩ := List.head?_eq_some_iff.mp hstart
    rcases htext with hnil | htext
    · cases hnil
    · exact happend htext.wholeLines_tail h
  · rw [ofText?_of_head?_ne hstart] at h
    have hstart' : (text ++ later).head? ≠ some '\uFEFF' := by
      cases text with
      | nil => exact hmark
      | cons c cs => exact hstart
    rw [ofText?_of_head?_ne hstart']
    exact happend htext h

end Statement

end VersionCatalog.Toml
