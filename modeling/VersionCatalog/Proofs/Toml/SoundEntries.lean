import VersionCatalog.Proofs.Toml.Literals
import VersionCatalog.Toml.Document

namespace VersionCatalog.Toml

variable {P : String → Prop}

/-- Entries that will stand in the document as a sound table. -/
def SoundEntries (P : String → Prop) (entries : Entries) : Prop :=
  (Node.table (entryNodes entries)).IsSound P

theorem entryNodes_eq_map (entries : Entries) :
    entryNodes entries = entries.map fun entry => (entry.1, entry.2.toNode) := by
  induction entries with
  | nil => rfl
  | cons entry entries ih => rw [entryNodes, ih, List.map_cons]

private theorem elementNodes_eq_map (elements : List Entries) :
    elementNodes elements = elements.map fun entries => .table (entryNodes entries) := by
  induction elements with
  | nil => rfl
  | cons entries elements ih => rw [elementNodes, ih, List.map_cons]

private theorem soundEntries_iff {entries : Entries} :
    SoundEntries P entries ↔
      (entries.map Prod.fst).Nodup ∧ ∀ entry ∈ entries, entry.2.toNode.IsSound P := by
  rw [SoundEntries, Node.isSound_table, entryNodes_eq_map, List.map_map, List.forall_mem_map]
  rfl

theorem soundEntries_nil : SoundEntries P [] :=
  soundEntries_iff.mpr (by simp)

theorem isSound_tables {elements : List Entries} :
    (Item.tables elements).toNode.IsSound P ↔ ∀ table ∈ elements, SoundEntries P table := by
  simp only [Item.toNode, elementNodes_eq_map, Node.isSound_array, List.forall_mem_map]
  rfl

section Entries

variable {key : String} {item : Item} {entries : Entries}

theorem isSound_of_lookup (h : SoundEntries P entries)
    (hitem : entries.lookup key = some item) : item.toNode.IsSound P := by
  obtain ⟨before, later, rfl, -⟩ := List.lookup_eq_some_iff.mp hitem
  exact (soundEntries_iff.mp h).2 (key, item) (by simp)

theorem soundEntries_put (h : SoundEntries P entries) (hitem : item.toNode.IsSound P) :
    SoundEntries P (KeyedList.put key item entries) := by
  rw [soundEntries_iff] at h ⊢
  refine ⟨KeyedList.nodup_keys_put key item h.1, ?_⟩
  intro entry hentry
  rcases KeyedList.mem_put hentry with rfl | hentry
  · exact hitem
  · exact h.2 entry hentry

/-- An entry under a name that is free comes last. -/
theorem soundEntries_append (h : SoundEntries P entries) (hitem : item.toNode.IsSound P)
    (hkey : key ∉ entries.map Prod.fst) : SoundEntries P (entries ++ [(key, item)]) := by
  rw [← KeyedList.put_of_notMem hkey]
  exact soundEntries_put h hitem

theorem soundEntries_erase (h : SoundEntries P entries) (key : String) :
    SoundEntries P (Entries.erase key entries) := by
  rw [soundEntries_iff] at h ⊢
  have hsublist : (Entries.erase key entries).Sublist entries := List.filter_sublist
  exact ⟨(hsublist.map Prod.fst).nodup h.1, fun entry hentry => h.2 entry (hsublist.mem hentry)⟩

theorem notMem_keys_erase (key : String) (entries : Entries) :
    key ∉ (Entries.erase key entries).map Prod.fst := by
  simp [Entries.erase]

end Entries

section Descent

variable {byDots : Bool} {change : Origin → Entries → Option Entries} {path : List String}
  {origin : Origin} {entries entries' : Entries}

@[simp] theorem tableAt_nil (path : List String) : Draft.tableAt path [] = [] := by
  cases path <;> rfl

private theorem soundEntries_getLast {elements : List Entries}
    (h : ∀ table ∈ elements, SoundEntries P table) :
    SoundEntries P (elements.getLast?.getD []) := by
  cases hlast : elements.getLast? with
  | none => exact soundEntries_nil
  | some table => exact h table (List.mem_of_getLast? hlast)

theorem soundEntries_tableAt (h : SoundEntries P entries) (path : List String) :
    SoundEntries P (Draft.tableAt path entries) := by
  induction path generalizing entries with
  | nil => exact h
  | cons key path ih =>
    rw [Draft.tableAt]
    split
    case h_1 hitem => exact ih (isSound_of_lookup h hitem)
    case h_2 hitem =>
      exact ih (soundEntries_getLast (isSound_tables.mp (isSound_of_lookup h hitem)))
    case h_3 => exact soundEntries_nil

private theorem tableAt_cons (key : String) (path : List String) (entries : Entries) :
    Draft.tableAt (key :: path) entries = Draft.tableAt path (Draft.tableAt [key] entries) := by
  cases hlookup : entries.lookup key with
  | none => simp [Draft.tableAt, hlookup]
  | some item => cases item <;> simp [Draft.tableAt, hlookup]

/-- What stands under a key once the table there has been changed to `inner`: that table, or the
array of tables that stood there, with it in the place of the last one. -/
inductive PutBack (old : Option Item) (inner : Entries) : Item → Prop
  | table (origin : Origin) : PutBack old inner (.table origin inner)
  | tables {elements : List Entries} (hold : old = some (.tables elements)) :
    PutBack old inner (.tables (elements.dropLast ++ [inner]))

/-- One step along a path: the table under its first key is changed at the end of the others, and put
back. -/
theorem modifyAt_cons {key : String}
    (h : Entries.modifyAt byDots change (key :: path) origin entries = some entries') :
    ∃ origin' inner item,
      Entries.modifyAt byDots change path origin' (Draft.tableAt [key] entries) = some inner ∧
      entries' = KeyedList.put key item entries ∧ PutBack (entries.lookup key) inner item := by
  rw [Entries.modifyAt] at h
  rw [Draft.tableAt]
  split at h
  case h_1 hlookup =>
    obtain ⟨inner, hinner, heq⟩ := Option.bind_eq_some_iff.mp h
    rw [hlookup]
    exact ⟨_, inner, _, hinner, (Option.some.inj heq).symm, .table _⟩
  case h_2 hlookup => cases h
  case h_3 origin' table hlookup =>
    split at h
    · cases h
    · obtain ⟨inner, hinner, heq⟩ := Option.bind_eq_some_iff.mp h
      rw [hlookup]
      exact ⟨_, inner, _, hinner, (Option.some.inj heq).symm, .table _⟩
  case h_4 elements hlookup =>
    obtain ⟨inner, hinner, heq⟩ := Option.bind_eq_some_iff.mp h
    rw [hlookup]
    exact ⟨_, inner, _, hinner, (Option.some.inj heq).symm, .tables rfl⟩

theorem PutBack.tableAt {old : Option Item} {inner : Entries} {item : Item}
    (h : PutBack old inner item) (key : String) (entries : Entries) :
    Draft.tableAt [key] (KeyedList.put key item entries) = inner := by
  cases h <;> simp [Draft.tableAt, KeyedList.lookup_put]

theorem PutBack.isSound {key : String} {inner : Entries} {item : Item}
    (h : PutBack (entries.lookup key) inner item) (hentries : SoundEntries P entries)
    (hinner : SoundEntries P inner) : item.toNode.IsSound P := by
  cases h with
  | table origin => exact hinner
  | tables hold =>
    have helements := isSound_tables.mp (isSound_of_lookup hentries hold)
    exact isSound_tables.mpr (List.forall_mem_append.mpr
      ⟨fun table htable => helements table (List.dropLast_subset _ htable),
        List.forall_mem_singleton.mpr hinner⟩)

/-- A change at the end of a path is one of the table there. -/
theorem exists_change (h : Entries.modifyAt byDots change path origin entries = some entries') :
    ∃ origin', change origin' (Draft.tableAt path entries) = some (Draft.tableAt path entries') := by
  induction path generalizing origin entries entries' with
  | nil => exact ⟨origin, h⟩
  | cons key path ih =>
    obtain ⟨origin', inner, item, hinner, rfl, hput⟩ := modifyAt_cons h
    rw [tableAt_cons, tableAt_cons key path (KeyedList.put key item entries), hput.tableAt]
    exact ih hinner

theorem soundEntries_modifyAt
    (h : Entries.modifyAt byDots change path origin entries = some entries')
    (hentries : SoundEntries P entries)
    (hchange : ∀ origin table, SoundEntries P (Draft.tableAt path entries) →
      change origin (Draft.tableAt path entries) = some table → SoundEntries P table) :
    SoundEntries P entries' := by
  induction path generalizing origin entries entries' with
  | nil => exact hchange origin entries' hentries h
  | cons key path ih =>
    obtain ⟨origin', inner, item, hinner, rfl, hput⟩ := modifyAt_cons h
    rw [tableAt_cons] at hchange
    have htable := soundEntries_tableAt hentries [key]
    exact soundEntries_put hentries (hput.isSound hentries (ih hinner htable hchange))

end Descent

end VersionCatalog.Toml
