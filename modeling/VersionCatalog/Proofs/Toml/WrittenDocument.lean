import Mathlib.Data.List.Forall2
import VersionCatalog.Proofs.Toml.InlineValue

namespace VersionCatalog.Toml

def writeHeader (name : String) : List Char :=
  '[' :: name.toList ++ [']', '\n']

def writeLine (line : String × List Char) : List Char :=
  writeAssignment (basicString line.1) line.2 ++ ['\n']

def writeSection (part : String × List (String × List Char)) : List (List Char) :=
  writeHeader part.1 :: part.2.map writeLine

def writeDocument (parts : List (String × List (String × List Char))) : String :=
  String.ofList (parts.flatMap writeSection).flatten

/-- The header of a table with a path that is written out already. -/
def headerLine (path : List Char) : List Char :=
  '[' :: path ++ [']', '\n']

def assignmentLine (path value : List Char) : List Char :=
  writeAssignment path value ++ ['\n']

/-- A line is read as a statement, and it cannot be taken for an empty line or for the mark that a
document may begin with. -/
structure ReadsStatement (line : List Char) (statement : Statement) : Prop where
  start : ∃ c cs, line = c :: cs ∧ (c = '[' ∨ startsKey c = true)
  read : ∀ rest, Statement.read? (line ++ rest) = some (statement, rest)

theorem readsStatement_headerLine {text : List Char} {path : KeyPath} (h : ReadsPath text path) :
    ReadsStatement (headerLine text) (.tableHeader path) where
  start := ⟨'[', _, rfl, .inl rfl⟩
  read := by
    intro rest
    have hclose : skipBlanks (']' :: '\n' :: rest) = ']' :: '\n' :: rest := rfl
    have hpath := h.read (by decide) hclose (by decide)
    obtain ⟨first, others, rfl, hfirst⟩ := h.start
    have hbracket : first ≠ '[' := ne_of_startsKey hfirst (by decide)
    have htext : headerLine (first :: others) ++ rest =
        '[' :: first :: (others ++ ']' :: '\n' :: rest) := by
      simp [headerLine]
    rw [List.cons_append] at hpath
    rw [htext, Statement.read?]
    · rw [hpath]
      rfl
    · intro cs heq
      exact hbracket (List.cons.inj heq).1

theorem readsStatement_assignmentLine {text value : List Char} {path : KeyPath} {node : Node}
    (hpath : ReadsPath text path) (hvalue : ReadsValue depthLimit value node) :
    ReadsStatement (assignmentLine text value) (.assignment path node) := by
  obtain ⟨first, others, htext, hfirst⟩ := hpath.start
  have hbracket : first ≠ '[' := ne_of_startsKey hfirst (by decide)
  have hline (rest : List Char) : assignmentLine text value ++ rest =
      first :: (others ++ (' ' :: '=' :: ' ' :: (value ++ '\n' :: rest))) := by
    simp [assignmentLine, writeAssignment, htext]
  constructor
  · exact ⟨first, _, by simpa using hline [], .inr hfirst⟩
  · intro rest
    have hassign := assignment?_written hpath hvalue ('\n' :: rest) (by simp)
    have hsame : assignmentLine text value ++ rest = writeAssignment text value ++ '\n' :: rest := by
      simp [assignmentLine]
    rw [← hsame, hline] at hassign
    rw [hline, Statement.read?]
    · rw [hassign]
      rfl
    · intro cs heq
      exact hbracket (List.cons.inj heq).1
    · intro cs heq
      exact hbracket (List.cons.inj heq).1

/-- Lines are read one after the other. -/
theorem readAll?_written {lines : List (List Char)} {statements : List Statement} {fuel : Nat}
    (h : List.Forall₂ ReadsStatement lines statements) (hfuel : lines.length < fuel) :
    Statement.readAll? fuel lines.flatten = some statements := by
  induction h generalizing fuel with
  | nil =>
    obtain ⟨fuel, rfl⟩ := Nat.exists_eq_succ_of_ne_zero (Nat.ne_of_gt hfuel)
    rfl
  | @cons line statement lines statements hline hothers ih =>
    obtain ⟨fuel, rfl⟩ := Nat.exists_eq_succ_of_ne_zero (Nat.ne_of_gt (Nat.zero_lt_of_lt hfuel))
    have hothers := ih (Nat.lt_of_succ_lt_succ hfuel)
    obtain ⟨c, cs, hstart, hc⟩ := hline.start
    have hread := hline.read lines.flatten
    rw [hstart, List.cons_append] at hread
    have hne {d : Char} (hd : startsKey d = false) (hbracket : '[' ≠ d) : c ≠ d := by
      rcases hc with rfl | hc
      · exact hbracket
      · exact ne_of_startsKey hc hd
    have hblank : isBlankChar c = false := by
      have hspace := hne (d := ' ') (by decide) (by decide)
      have htab := hne (d := '\t') (by decide) (by decide)
      simp [isBlankChar, hspace, htab]
    have hfull : ¬(c = '#' ∨ c = '\n' ∨ c = '\r') := by
      have hcomment := hne (d := '#') (by decide) (by decide)
      have hfeed := hne (d := '\n') (by decide) (by decide)
      have hreturn := hne (d := '\r') (by decide) (by decide)
      simp [hcomment, hfeed, hreturn]
    rw [List.flatten_cons, hstart, List.cons_append, Statement.readAll?, skipBlanks_cons hblank]
    simp [hfull, hread, hothers]

/-- No line is empty. -/
theorem length_le_flatten {lines : List (List Char)} {statements : List Statement}
    (h : List.Forall₂ ReadsStatement lines statements) : lines.length ≤ lines.flatten.length := by
  induction h with
  | nil => simp
  | cons hline _ ih =>
    obtain ⟨c, cs, rfl, -⟩ := hline.start
    simp only [List.flatten_cons, List.length_append, List.length_cons]
    omega

/-- Lines do not begin with a byte order mark, which only a document may begin with. -/
theorem head?_flatten {lines : List (List Char)} {statements : List Statement}
    (h : List.Forall₂ ReadsStatement lines statements) :
    lines.flatten.head? ≠ some '\uFEFF' := by
  cases h with
  | nil => simp
  | cons hline hothers =>
    obtain ⟨c, cs, rfl, hc⟩ := hline.start
    have hmark : c ≠ '\uFEFF' := by
      rcases hc with rfl | hc
      · decide
      · exact ne_of_startsKey hc (by decide)
    simpa using hmark

theorem ofText?_of_head?_ne {text : List Char} (h : text.head? ≠ some '\uFEFF') :
    Statement.ofText? text = Statement.readAll? (text.length + 1) text := by
  rw [Statement.ofText?]
  rintro cs rfl
  exact h rfl

theorem ofText?_flatten {lines : List (List Char)} {statements : List Statement}
    (h : List.Forall₂ ReadsStatement lines statements) :
    Statement.ofText? lines.flatten = some statements := by
  rw [ofText?_of_head?_ne (head?_flatten h)]
  exact readAll?_written h (Nat.lt_succ_of_le (length_le_flatten h))

def ReadsEntries : List (String × List Char) → List (String × Node) → Prop :=
  List.Forall₂ fun line entry => line.1 = entry.1 ∧ ReadsValue depthLimit line.2 entry.2

/-- Written sections, and the names and entries that they stand for. -/
def ReadsParts : List (String × List (String × List Char)) →
    List (String × List (String × Node)) → Prop :=
  List.Forall₂ fun part entries =>
    part.1 = entries.1 ∧ isBareName part.1 = true ∧ ReadsEntries part.2 entries.2

theorem ReadsParts.part {name : String} {lines : List (String × List Char)}
    {entries : List (String × Node)} {parts : List (String × List (String × List Char))}
    {document : List (String × List (String × Node))} (hname : isBareName name = true)
    (hlines : ReadsEntries lines entries) (h : ReadsParts parts document) :
    ReadsParts ((name, lines) :: parts) ((name, entries) :: document) :=
  .cons ⟨rfl, hname, hlines⟩ h

private theorem readsStatements_section {part : String × List (String × List Char)}
    {entries : List (String × Node)} (hname : isBareName part.1 = true)
    (h : ReadsEntries part.2 entries) :
    List.Forall₂ ReadsStatement (writeSection part) (sectionStatements (part.1, entries)) := by
  refine .cons (readsStatement_headerLine (readsKey_bare hname).path) ?_
  rw [List.map_map, List.forall₂_map_left_iff, List.forall₂_map_right_iff]
  refine h.imp ?_
  intro line entry hline
  obtain ⟨hkey, hvalue⟩ := hline
  have hpath := (readsKey_basicString line.1).path
  have hread : ReadsStatement (writeLine line) (.assignment ⟨[], line.1⟩ entry.2) :=
    readsStatement_assignmentLine hpath hvalue
  rw [hkey] at hread
  exact hread

/-- A written document is read back as its sections. -/
theorem parse?_writeDocument {parts : List (String × List (String × List Char))}
    {document : List (String × List (String × Node))} (h : ReadsParts parts document)
    (hnames : (document.map Prod.fst).Nodup)
    (hkeys : ∀ part ∈ document, (part.2.map Prod.fst).Nodup) :
    parse? (writeDocument parts) =
      some (.table (document.map fun part => (part.1, .table part.2))) := by
  have hlines : List.Forall₂ ReadsStatement (parts.flatMap writeSection)
      (document.flatMap sectionStatements) := by
    refine List.rel_flatMap h ?_
    intro part entries hpart
    obtain ⟨hname, hbare, hlines⟩ := hpart
    have hsection := readsStatements_section hbare hlines
    rw [hname] at hsection
    exact hsection
  rw [parse?, writeDocument, String.toList_ofList, ofText?_flatten hlines]
  exact ofStatements?_sections hnames hkeys

end VersionCatalog.Toml
