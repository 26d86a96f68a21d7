import VersionCatalog.Proofs.Toml.Verbatim

namespace VersionCatalog.Toml

variable {cs : List Char}

theorem isBareChar_or_of_whole (h : spanBare cs = (cs, [])) :
    ∀ c ∈ cs, isBareChar c = true ∨ c = ' ' := by
  have hword : ∀ c ∈ cs.takeWhile isBareChar, isBareChar c = true := fun _ => List.mem_takeWhile_imp
  rw [spanBare_eq] at h
  intro c hc
  rcases withTime_cases (cs.takeWhile isBareChar) (cs.dropWhile isBareChar) with
    hplain | ⟨next, after, hrest, hdate, hnext⟩
  · obtain ⟨hwhole, -⟩ := Prod.mk.inj (hplain.symm.trans h)
    rw [hwhole] at hword
    exact .inl (hword c hc)
  · rw [hrest, withTime_time hdate hnext] at h
    obtain ⟨hwhole, -⟩ := Prod.mk.inj h
    rw [← hwhole, List.mem_append, List.mem_cons, List.mem_cons] at hc
    rcases hc with hc | rfl | rfl | hc
    · exact .inl (hword c hc)
    · exact .inr rfl
    · exact .inl hnext
    · exact .inl (List.mem_takeWhile_imp hc)

theorem IsLiteralText.exists_cons (h : IsLiteralText cs) :
    ∃ c rest, cs = c :: rest ∧ isBareChar c = true := by
  obtain ⟨hwhole, hliteral⟩ := h
  cases cs with
  | nil =>
    have hnone : (ofBare? []).isNone = true := by decide
    simp [hliteral] at hnone
  | cons c rest =>
    refine ⟨c, rest, rfl, ?_⟩
    by_contra hc
    have hword : (c :: rest).takeWhile isBareChar = [] := by simp [hc]
    rw [spanBare_eq, hword] at hwhole
    rcases withTime_cases [] ((c :: rest).dropWhile isBareChar) with hplain | ⟨_, _, _, hdate, _⟩
    · rw [hplain] at hwhole
      cases hwhole
    · cases hdate

theorem IsLiteralText.bare?_eq (h : IsLiteralText cs) :
    bare? cs = some (.literal (String.ofList cs), []) := by
  obtain ⟨hwhole, hliteral⟩ := h
  simp [Toml.bare?_eq, hwhole, hliteral]

theorem ne_of_isBareChar {c d : Char} (h : isBareChar c = true) (hd : isBareChar d = false) :
    c ≠ d := by
  rintro rfl
  simp [h] at hd

theorem IsLiteralText.value?_eq (h : IsLiteralText cs) (depth : Nat) :
    value? depth cs = some (.literal (String.ofList cs), []) := by
  have hbare := h.bare?_eq
  obtain ⟨c, rest, rfl, hc⟩ := h.exists_cons
  have hquote : ¬(c = '"' ∨ c = '\'') :=
    not_or.mpr ⟨ne_of_isBareChar hc (by decide), ne_of_isBareChar hc (by decide)⟩
  have hscalar : scalarValue? (c :: rest) = some (.literal (String.ofList (c :: rest)), []) := by
    rw [scalarValue?, if_neg hquote, hbare]
  cases depth with
  | zero => exact hscalar
  | succ depth =>
    have hbracket : c ≠ '[' := ne_of_isBareChar hc (by decide)
    have hbrace : c ≠ '{' := ne_of_isBareChar hc (by decide)
    rw [value?_succ, onHead, if_neg hbracket, onHead, if_neg hbrace, hscalar]

theorem IsLiteralText.skipBlanks_eq (h : IsLiteralText cs) : skipBlanks (' ' :: cs) = cs := by
  obtain ⟨c, rest, rfl, hc⟩ := h.exists_cons
  have hspace : c ≠ ' ' := ne_of_isBareChar hc (by decide)
  have htab : c ≠ '\t' := ne_of_isBareChar hc (by decide)
  exact skipBlanks_cons (by simp [isBlankChar, hspace, htab]) rest

section Assignment

variable {name : String}

private theorem read?_assigned (hname : isBareName name = true) (h : IsLiteralText cs) :
    Statement.read? (name.toList ++ ' ' :: '=' :: ' ' :: cs) =
      some (.assignment ⟨[], name⟩ (.literal (String.ofList cs)), []) := by
  have hblanks : skipBlanks (' ' :: '=' :: ' ' :: cs) = '=' :: ' ' :: cs := rfl
  have hpath := (readsKey_bare hname).path.read (by decide) hblanks (by decide)
  have hassignment : assignment? (value? depthLimit) (name.toList ++ ' ' :: '=' :: ' ' :: cs) =
      some ((⟨[], name⟩, .literal (String.ofList cs)), []) := by
    simp only [assignment?_eq, hpath, Option.bind_some, onHead_self, h.skipBlanks_eq,
      h.value?_eq, Option.map_some]
  obtain ⟨c, rest, hstart, hc⟩ := (readsKey_bare hname).start
  have hbracket : c ≠ '[' := ne_of_startsKey hc (by decide)
  rw [hstart, List.cons_append] at hassignment ⊢
  rw [Statement.read?_eq, onHead, if_neg hbracket, hassignment]
  rfl

private theorem readAll?_single {c : Char} {line : List Char} {statement : Statement}
    (hc : startsKey c = true) (h : Statement.read? (c :: line) = some (statement, []))
    (fuel : Nat) : Statement.readAll? (fuel + 2) (c :: line) = some [statement] := by
  have hline := skipBlanks_of_startsKey ⟨c, line, rfl, hc⟩ []
  rw [List.append_nil] at hline
  have hblank : ¬(c = '#' ∨ c = '\n' ∨ c = '\r') := by
    rintro (rfl | rfl | rfl) <;> revert hc <;> decide
  have hend : Statement.readAll? (fuel + 1) [] = some [] := rfl
  rw [Statement.readAll?, hline]
  simp [hblank, h, hend]

private theorem ofStatements?_single (name : String) (node : Node) :
    ofStatements? [.assignment ⟨[], name⟩ node] = some (.table [(name, node)]) := by
  simp [ofStatements?, Draft.addAll, Draft.add, assign_plain, Draft.close, plainEntry, entryNodes,
    Item.toNode]

/-- The text of an assignment with a literal is a document with one entry, the literal. -/
theorem parse?_assigned {raw : String} (hname : isBareName name = true)
    (h : IsLiteralText raw.toList) :
    parse? (name ++ " = " ++ raw) = some (.table [(name, .literal raw)]) := by
  have htext : (name ++ " = " ++ raw).toList = name.toList ++ ' ' :: '=' :: ' ' :: raw.toList := by
    simp
  have hread := read?_assigned hname h
  obtain ⟨c, rest, hstart, hc⟩ := (readsKey_bare hname).start
  rw [hstart, List.cons_append] at htext hread
  have hmark : (c :: (rest ++ ' ' :: '=' :: ' ' :: raw.toList)).head? ≠ some '\uFEFF' := by
    simpa using ne_of_startsKey hc (d := '\uFEFF') (by decide)
  have hall : Statement.ofText? (name ++ " = " ++ raw).toList =
      some [.assignment ⟨[], name⟩ (.literal raw)] := by
    rw [htext, ofText?_of_head?_ne hmark, List.length_cons, readAll?_single hc hread,
      String.ofList_toList]
  rw [parse?, hall]
  exact ofStatements?_single name _

end Assignment

end VersionCatalog.Toml
