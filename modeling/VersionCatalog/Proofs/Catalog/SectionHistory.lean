import Mathlib.Data.Finset.Card
import Mathlib.Tactic.SplitIfs
import VersionCatalog.Section

namespace VersionCatalog.Section

variable {α : Type} {s : Section α} {history : List (String × α)}

/-- A section that tells of a history of insertions the keys, each where it came first, and the
values, of each key the last one. -/
structure Records (s : Section α) (history : List (String × α)) : Prop where
  nodup : s.keys.Nodup
  keys : s.keys = (history.map Prod.fst).eraseDups
  get? : ∀ key, s.get? key = history.reverse.lookup key

private theorem records_empty : (empty : Section α).Records [] :=
  ⟨List.nodup_nil, rfl, fun _ => rfl⟩

/-- What follows a list in the order of first occurrences is one new element, or nothing. -/
theorem eraseDups_concat (keys : List String) (key : String) :
    (keys ++ [key]).eraseDups = if key ∈ keys then keys.eraseDups else keys.eraseDups ++ [key] := by
  rw [List.eraseDups_append]
  split_ifs with hkey <;> simp [List.removeAll, hkey, List.eraseDups_cons]

/-- One more insertion is one more in the history. -/
theorem Records.insert (h : s.Records history) (key : String) (value : α) :
    (s.insert key value).Records (history ++ [(key, value)]) where
  nodup := KeyedList.nodup_keys_put key value h.nodup
  keys := by
    have hmem : key ∈ s.keys ↔ key ∈ history.map Prod.fst := by
      rw [h.keys, List.mem_eraseDups]
    rw [keys_insert, List.map_append, List.map_singleton, eraseDups_concat, ← h.keys]
    simp only [hmem]
  get? other := by
    rw [get?_insert, h.get?, List.reverse_append, List.reverse_singleton, List.singleton_append,
      List.lookup_cons]
    by_cases hother : other = key
    · simp [hother]
    · simp [hother, beq_eq_false_iff_ne.mpr hother]

/-- Insertions one after the other. -/
theorem Records.foldl_insert (h : s.Records history) (pairs : List (String × α)) :
    (pairs.foldl (fun s pair => s.insert pair.1 pair.2) s).Records (history ++ pairs) := by
  induction pairs generalizing s history with
  | nil => simpa using h
  | cons pair pairs ih => simpa using ih (h.insert pair.1 pair.2)

private theorem records_ofList (pairs : List (String × α)) : (ofList pairs).Records pairs :=
  records_empty.foldl_insert pairs

private theorem get?_eq_none_iff {key : String} : s.get? key = none ↔ key ∉ s.keys :=
  KeyedList.lookup_eq_none_iff

theorem Records.get?_eq_none_iff (h : s.Records history) {key : String} :
    s.get? key = none ↔ key ∉ history.map Prod.fst := by
  rw [Section.get?_eq_none_iff, h.keys, List.mem_eraseDups]

theorem Records.size_eq (h : s.Records history) :
    s.size = (history.map Prod.fst).toFinset.card := by
  have hsame : (history.map Prod.fst).toFinset = s.keys.toFinset := by
    ext key
    simp [h.keys]
  rw [hsame, List.toFinset_card_of_nodup h.nodup, Section.keys, List.length_map, Section.size]

/-- Distinct keys stand with the values that they are looked up with. -/
theorem map_some_entries (h : s.keys.Nodup) :
    s.entries.map (fun entry => (entry.1, some entry.2)) =
      s.keys.map fun key => (key, s.get? key) := by
  rw [Section.keys, List.map_map]
  refine List.map_congr_left fun entry hentry => ?_
  have hvalue : s.get? entry.1 = some entry.2 := (KeyedList.lookup_eq_some_iff h).mpr hentry
  simp [hvalue]

/-- Sections are maps that keep their order. After any insertions into a section from any pairs the
keys are distinct and stand in the order in which they came first; a key has the value that it was
inserted with last, and none if it never was; there are as many entries as different keys, each with
the value of its key. An insertion of a key that is there changes its value and nothing else, and so
it can be exchanged with any insertion of another key. -/
theorem section_is_ordered_map (pairs later : List (String × α)) :
    let s : Section α := later.foldl (fun s pair => s.insert pair.1 pair.2) (ofList pairs)
    let history := pairs ++ later
    s.keys.Nodup ∧
    s.keys = (history.map Prod.fst).eraseDups ∧
    (∀ key, s.get? key = history.reverse.lookup key) ∧
    (∀ key, s.get? key = none ↔ key ∉ history.map Prod.fst) ∧
    s.size = (history.map Prod.fst).toFinset.card ∧
    s.entries.map (fun entry => (entry.1, some entry.2)) =
      s.keys.map (fun key => (key, s.get? key)) ∧
    (∀ key ∈ s.keys, ∀ value, (s.insert key value).entries =
      s.entries.map fun entry => if entry.1 = key then (key, value) else entry) ∧
    ∀ key ∈ s.keys, ∀ other, other ≠ key → ∀ value value',
      (s.insert key value).insert other value' = (s.insert other value').insert key value := by
  intro s history
  have hrecords : s.Records history := (records_ofList pairs).foldl_insert later
  refine ⟨hrecords.nodup, hrecords.keys, hrecords.get?, fun _ => hrecords.get?_eq_none_iff,
    hrecords.size_eq, map_some_entries hrecords.nodup, ?_, ?_⟩
  · intro key hkey value
    exact KeyedList.put_of_mem hrecords.nodup hkey value
  · intro key hkey other hne value value'
    exact congrArg Section.mk (KeyedList.put_comm hne.symm hkey value value').symm

/-- A key of the pairs that comes again, first among them and then behind a new one. -/
theorem repeated_keys_keep_order :
    "b" ∈ ([("c", 4), ("b", 5)].foldl (fun s pair => s.insert pair.1 pair.2)
      (ofList [("a", 1), ("b", 2), ("a", 3)])).keys ∧
    (([("c", 4), ("b", 5)].foldl (fun s pair => s.insert pair.1 pair.2)
      (ofList [("a", 1), ("b", 2), ("a", 3)])).insert "b" 6).entries =
        [("a", 3), ("b", 6), ("c", 4)] := by
  obtain ⟨-, -, -, -, -, -, hinsert, -⟩ :=
    section_is_ordered_map [("a", 1), ("b", 2), ("a", 3)] [("c", 4), ("b", 5)]
  have hkey : "b" ∈ ([("c", 4), ("b", 5)].foldl (fun s pair => s.insert pair.1 pair.2)
      (ofList [("a", 1), ("b", 2), ("a", 3)])).keys := by decide
  refine ⟨hkey, ?_⟩
  rw [hinsert "b" hkey 6]
  decide

end VersionCatalog.Section
