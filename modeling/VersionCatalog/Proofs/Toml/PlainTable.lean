import Mathlib.Data.List.Nodup
import VersionCatalog.Toml.Document

namespace VersionCatalog.Toml

/-- The assignment of a key that stands for itself. -/
def plainAssignment (entry : String × Node) : KeyPath × Node :=
  (⟨[], entry.1⟩, entry.2)

def plainEntry (entry : String × Node) : String × Item :=
  (entry.1, .value entry.2)

theorem assign_plain {name : String} {entries : Entries} (h : name ∉ entries.map Prod.fst)
    (node : Node) :
    Entries.assign ⟨[], name⟩ node entries = some (entries ++ [plainEntry (name, node)]) := by
  simp [Entries.assign, Entries.modifyAt, KeyedList.lookup_eq_none_iff.mpr h, plainEntry]

/-- Values under new keys come behind the entries of a table. -/
theorem ofAssignments_plain {entries : Entries} {new : List (String × Node)}
    (h : (entries.map Prod.fst ++ new.map Prod.fst).Nodup) :
    Entries.ofAssignments (new.map plainAssignment) entries =
      some (entries ++ new.map plainEntry) := by
  induction new generalizing entries with
  | nil => simp [Entries.ofAssignments]
  | cons e new ih =>
    have hkey : e.1 ∉ entries.map Prod.fst := by
      intro hmem
      exact (List.nodup_append.mp h).2.2 e.1 hmem e.1 (by simp) rfl
    have hkeys : ((entries ++ [plainEntry e]).map Prod.fst ++ new.map Prod.fst).Nodup := by
      simpa [plainEntry] using h
    rw [List.map_cons, Entries.ofAssignments, plainAssignment, assign_plain hkey]
    simpa using ih hkeys

theorem entryNodes_plain (l : List (String × Node)) : entryNodes (l.map plainEntry) = l := by
  induction l with
  | nil => rfl
  | cons e l ih => simp [entryNodes, plainEntry, Item.toNode, ih]

/-- Assignments go into the open table as they go into a table that is written in one line. -/
theorem addAll_assignments (assignments : List (KeyPath × Node)) (rest : List Statement)
    (draft : Draft) :
    Draft.addAll ((assignments.map fun a => .assignment a.1 a.2) ++ rest) draft =
      (Entries.ofAssignments assignments draft.here).bind fun here =>
        Draft.addAll rest { draft with here } := by
  induction assignments generalizing draft with
  | nil => rfl
  | cons a assignments ih =>
    obtain ⟨path, node⟩ := a
    rw [List.map_cons, List.cons_append, Draft.addAll, Draft.add, Entries.ofAssignments]
    cases hassign : draft.here.assign path node with
    | none => rfl
    | some here => exact ih { draft with here }

/-- A section: the header of a table, and the assignments under it. -/
def sectionStatements (part : String × List (String × Node)) : List Statement :=
  .tableHeader ⟨[], part.1⟩ :: (part.2.map plainAssignment).map fun a => .assignment a.1 a.2

def sectionEntry (part : String × List (String × Node)) : String × Item :=
  (part.1, .table .header (part.2.map plainEntry))

theorem erase_of_notMem {name : String} {entries : Entries} (h : name ∉ entries.map Prod.fst) :
    entries.erase name = entries := by
  rw [Entries.erase, List.filter_eq_self]
  intro entry hentry
  have hne : entry.1 ≠ name := by
    rintro rfl
    exact h (List.mem_map_of_mem hentry)
  simpa using hne

private theorem openTable_new {name : String} {root : Entries} (h : name ∉ root.map Prod.fst) :
    Draft.openTable ⟨[], name⟩ root = some { root, place := .entry ⟨[], name⟩, here := [] } := by
  simp [Draft.openTable, Draft.continued?, Draft.tableAt, KeyedList.lookup_eq_none_iff.mpr h,
    Entries.modifyAt, erase_of_notMem h]

/-- A section of a new name comes behind the entries of the document, once it is closed. -/
theorem addAll_section {draft : Draft} {root : Entries} {part : String × List (String × Node)}
    (hclose : draft.close = some root) (hname : part.1 ∉ root.map Prod.fst)
    (hkeys : (part.2.map Prod.fst).Nodup) (rest : List Statement) :
    ∃ next : Draft, next.close = some (root ++ [sectionEntry part]) ∧
      Draft.addAll (sectionStatements part ++ rest) draft = Draft.addAll rest next := by
  refine ⟨{ root, place := .entry ⟨[], part.1⟩, here := part.2.map plainEntry }, ?_, ?_⟩
  · simp [Draft.close, Entries.modifyAt, sectionEntry]
  · rw [sectionStatements, List.cons_append, Draft.addAll, Draft.add, hclose, Option.bind_some,
      openTable_new hname, Option.bind_some, addAll_assignments,
      ofAssignments_plain (by simpa using hkeys)]
    rfl

private theorem addAll_sections {draft : Draft} {root : Entries}
    {parts : List (String × List (String × Node))} (hclose : draft.close = some root)
    (hnames : (root.map Prod.fst ++ parts.map Prod.fst).Nodup)
    (hkeys : ∀ part ∈ parts, (part.2.map Prod.fst).Nodup) :
    (Draft.addAll (parts.flatMap sectionStatements) draft).bind Draft.close =
      some (root ++ parts.map sectionEntry) := by
  -- before each section the draft closes to the entries of the sections before it
  induction parts generalizing draft root with
  | nil => simpa [Draft.addAll] using hclose
  | cons part parts ih =>
    have hname : part.1 ∉ root.map Prod.fst := by
      intro hmem
      exact (List.nodup_append.mp hnames).2.2 part.1 hmem part.1 (by simp) rfl
    have hothers : ((root ++ [sectionEntry part]).map Prod.fst ++ parts.map Prod.fst).Nodup := by
      simpa [sectionEntry] using hnames
    obtain ⟨next, hnext, hadd⟩ := addAll_section hclose hname (hkeys part (by simp))
      (parts.flatMap sectionStatements)
    rw [List.flatMap_cons, hadd, ih hnext hothers fun p hp => hkeys p (by simp [hp])]
    simp

private theorem entryNodes_sections (parts : List (String × List (String × Node))) :
    entryNodes (parts.map sectionEntry) = parts.map fun part => (part.1, .table part.2) := by
  induction parts with
  | nil => rfl
  | cons part parts ih => simp [entryNodes, sectionEntry, Item.toNode, entryNodes_plain, ih]

/-- The document of sections with distinct names and distinct keys in each. -/
theorem ofStatements?_sections {parts : List (String × List (String × Node))}
    (hnames : (parts.map Prod.fst).Nodup) (hkeys : ∀ part ∈ parts, (part.2.map Prod.fst).Nodup) :
    ofStatements? (parts.flatMap sectionStatements) =
      some (.table (parts.map fun part => (part.1, .table part.2))) := by
  have hclosed : (Draft.addAll (parts.flatMap sectionStatements) {}).bind Draft.close =
      some ([] ++ parts.map sectionEntry) :=
    addAll_sections rfl (by simpa using hnames) hkeys
  obtain ⟨draft, hdraft, hclose⟩ := Option.bind_eq_some_iff.mp hclosed
  rw [ofStatements?, hdraft]
  simp [hclose, entryNodes_sections]

end VersionCatalog.Toml
