import Mathlib.Data.List.Forall2
import VersionCatalog.Proofs.Toml.PlainTable
import VersionCatalog.Proofs.Toml.SoundEntries

namespace VersionCatalog.Toml

/-- A table on the way to another one: the entries before it, its key, and how it came about. -/
structure Passage where
  before : Entries
  key : String
  origin : Origin

/-- The key of the table does not stand among the entries before it. -/
def Passage.IsNew (passage : Passage) : Prop :=
  passage.key ∉ passage.before.map Prod.fst

/-- The entries of a table in which a path of last tables leads to `inner`. -/
def Entries.behind : List Passage → Entries → Entries
  | [], inner => inner
  | passage :: passages, inner =>
    passage.before ++ [(passage.key, .table passage.origin (behind passages inner))]

variable {passages : List Passage}

private theorem lookup_last {key : String} {before : Entries} (h : key ∉ before.map Prod.fst)
    (item : Item) :
    (before ++ [(key, item)]).lookup key = some item := by
  rw [List.lookup_append, KeyedList.lookup_eq_none_iff.mpr h]
  simp

private theorem put_last {key : String} {before : Entries} (h : key ∉ before.map Prod.fst)
    (old new : Item) :
    KeyedList.put key new (before ++ [(key, old)]) = before ++ [(key, new)] := by
  induction before with
  | nil => simp [KeyedList.put]
  | cons entry before ih =>
    rw [List.map_cons, List.mem_cons, not_or] at h
    rw [List.cons_append, KeyedList.put, if_neg (Ne.symm h.1), ih h.2, List.cons_append]

/-- A change at the end of a path of last tables leaves the path as it is. -/
theorem modifyAt_behind (h : ∀ passage ∈ passages, passage.IsNew)
    (change : Entries → Option Entries) (origin : Origin) (inner : Entries) :
    Entries.modifyAt false (fun _ table => change table) (passages.map Passage.key) origin
      (Entries.behind passages inner) = (change inner).map (Entries.behind passages) := by
  induction passages generalizing origin with
  | nil => simp [Entries.modifyAt, Entries.behind]
  | cons passage passages ih =>
    obtain ⟨hnew, hothers⟩ := List.forall_mem_cons.mp h
    have hchange := ih hothers passage.origin
    rw [List.map_cons, Entries.behind, Entries.modifyAt, lookup_last hnew]
    simp only [Bool.false_and, Bool.false_eq_true, if_false, hchange]
    cases change inner with
    | none => rfl
    | some table => simp [put_last hnew, Entries.behind]

private theorem tableAt_behind (h : ∀ passage ∈ passages, passage.IsNew) (inner : Entries) :
    Draft.tableAt (passages.map Passage.key) (Entries.behind passages inner) = inner := by
  induction passages with
  | nil => rfl
  | cons passage passages ih =>
    obtain ⟨hnew, hothers⟩ := List.forall_mem_cons.mp h
    rw [List.map_cons, Entries.behind, Draft.tableAt, lookup_last hnew]
    exact ih hothers

/-- An open table behind a path of last tables. -/
def Draft.inside (passages : List Passage) (outer : Entries) (name : String) (here : Entries) :
    Draft where
  root := Entries.behind passages outer
  place := .entry ⟨passages.map Passage.key, name⟩
  here

theorem openTable_behind (h : ∀ passage ∈ passages, passage.IsNew) {name : String}
    {outer : Entries} (hname : name ∉ outer.map Prod.fst) :
    Draft.openTable ⟨passages.map Passage.key, name⟩ (Entries.behind passages outer) =
      some (.inside passages outer name []) := by
  simp [Draft.openTable, tableAt_behind h, Draft.continued?, KeyedList.lookup_eq_none_iff.mpr hname,
    modifyAt_behind h, erase_of_notMem hname, Draft.inside]

theorem close_inside (h : ∀ passage ∈ passages, passage.IsNew) (outer : Entries) (name : String)
    (here : Entries) :
    (Draft.inside passages outer name here).close =
      some (Entries.behind passages (outer ++ [(name, .table .header here)])) := by
  simp [Draft.close, Draft.inside, modifyAt_behind h]

/-- The entries of a document whose last table has the entries `items` and no header of its own. It
is not there before it has an entry. -/
def Draft.EndsWith (name : String) (root items : Entries) (draft : Draft) : Prop :=
  items = [] ∧ draft.close = some root ∨
    draft.close = some (Entries.behind [⟨root, name, .path⟩] items)

/-- A header of two keys opens a new table in the last one, which it makes if it is not there. -/
theorem add_tableHeader {outer name : String} {root items : Entries} {draft : Draft}
    (h : draft.EndsWith outer root items) (houter : outer ∉ root.map Prod.fst)
    (hname : name ∉ items.map Prod.fst) :
    draft.add (.tableHeader ⟨[outer], name⟩) =
      some (.inside [⟨root, outer, .path⟩] items name []) := by
  have hnew : ∀ passage ∈ [(⟨root, outer, .path⟩ : Passage)], passage.IsNew := by
    simpa [Passage.IsNew] using houter
  rcases h with ⟨rfl, hclose⟩ | hclose
  · have hlookup := KeyedList.lookup_eq_none_iff.mpr houter
    rw [Draft.add, hclose, Option.bind_some]
    simp [Draft.openTable, Draft.tableAt, Draft.continued?, Entries.modifyAt, hlookup,
      Entries.erase, KeyedList.put_of_notMem houter, Draft.inside, Entries.behind]
  · rw [Draft.add, hclose, Option.bind_some]
    exact openTable_behind hnew hname

/-- Statements that add an entry to the last table of a document. -/
def AddsEntry (name : String) (root : Entries) (statements : List Statement)
    (entry : String × Node) : Prop :=
  ∀ (draft : Draft) (items : Entries), draft.EndsWith name root items →
    entry.1 ∉ items.map Prod.fst → ∃ (next : Draft) (item : Item), item.toNode = entry.2 ∧
      next.EndsWith name root (items ++ [(entry.1, item)]) ∧
      ∀ rest, Draft.addAll (statements ++ rest) draft = Draft.addAll rest next

theorem addAll_entries {name : String} {root items : Entries} {draft : Draft}
    {groups : List (List Statement)} {entries : List (String × Node)}
    (h : List.Forall₂ (AddsEntry name root) groups entries) (hdraft : draft.EndsWith name root items)
    (hkeys : (items.map Prod.fst ++ entries.map Prod.fst).Nodup) :
    ∃ (last : Draft) (all : Entries), entryNodes all = entryNodes items ++ entries ∧
      last.EndsWith name root all ∧ Draft.addAll groups.flatten draft = some last := by
  -- before each group the last table has the entries of the groups before it
  induction h generalizing draft items with
  | nil => exact ⟨draft, items, by simp, hdraft, rfl⟩
  | @cons group entry groups entries hgroup hothers ih =>
    have hkey : entry.1 ∉ items.map Prod.fst := by
      intro hmem
      exact (List.nodup_append.mp hkeys).2.2 entry.1 hmem entry.1 (by simp) rfl
    obtain ⟨next, item, hitem, hnext, hadd⟩ := hgroup draft items hdraft hkey
    have hkeys' : ((items ++ [(entry.1, item)]).map Prod.fst ++ entries.map Prod.fst).Nodup := by
      simpa using hkeys
    obtain ⟨last, all, hall, hlast, hrest⟩ := ih hnext hkeys'
    refine ⟨last, all, ?_, hlast, ?_⟩
    · simp [hall, entryNodes_eq_map, hitem]
    · rw [List.flatten_cons, hadd, hrest]

theorem addAll_append (statements later : List Statement) (draft : Draft) :
    Draft.addAll (statements ++ later) draft =
      (Draft.addAll statements draft).bind (Draft.addAll later) := by
  induction statements generalizing draft with
  | nil => rfl
  | cons statement statements ih =>
    rw [List.cons_append, Draft.addAll, Draft.addAll]
    cases draft.add statement with
    | none => rfl
    | some next => exact ih next

end VersionCatalog.Toml
