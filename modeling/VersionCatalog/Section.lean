import VersionCatalog.KeyedList

namespace VersionCatalog

/-- The entries of one section of a catalog, in the order of their declaration. -/
structure Section (α : Type) where
  entries : List (String × α)
  deriving DecidableEq, Repr

namespace Section

variable {α : Type}

def empty : Section α := ⟨[]⟩

/-- The section in which `key` has `value`; a key that is already there keeps its place. -/
def insert (s : Section α) (key : String) (value : α) : Section α :=
  ⟨KeyedList.put key value s.entries⟩

@[simp] theorem entries_insert (s : Section α) (key : String) (value : α) :
    (s.insert key value).entries = KeyedList.put key value s.entries := rfl

/-- The section that arises from the pairs one after the other. -/
def ofList (pairs : List (String × α)) : Section α :=
  pairs.foldl (fun s pair => s.insert pair.1 pair.2) empty

def get? (s : Section α) (key : String) : Option α :=
  s.entries.lookup key

def keys (s : Section α) : List String :=
  s.entries.map Prod.fst

theorem get?_insert (s : Section α) (key other : String) (value : α) :
    (s.insert key value).get? other = if other = key then some value else s.get? other :=
  KeyedList.lookup_put key other value s.entries

/-- An insertion adds its key at the end, unless the key is there. -/
theorem keys_insert (s : Section α) (key : String) (value : α) :
    (s.insert key value).keys = if key ∈ s.keys then s.keys else s.keys ++ [key] :=
  KeyedList.keys_put key value s.entries

/-- Pairs of new and distinct keys are added as they stand. -/
theorem foldl_insert {s : Section α} {pairs : List (String × α)}
    (h : (s.keys ++ pairs.map Prod.fst).Nodup) :
    pairs.foldl (fun s pair => s.insert pair.1 pair.2) s = ⟨s.entries ++ pairs⟩ := by
  induction pairs generalizing s with
  | nil => simp
  | cons pair pairs ih =>
    have hkey : pair.1 ∉ s.entries.map Prod.fst := by
      intro hmem
      exact (List.nodup_append.mp h).2.2 pair.1 hmem pair.1 (by simp) rfl
    have hinsert : s.insert pair.1 pair.2 = ⟨s.entries ++ [pair]⟩ := by
      rw [Section.insert, KeyedList.put_of_notMem hkey]
    rw [List.foldl_cons, hinsert, ih (by simpa [Section.keys] using h)]
    simp

theorem ofList_of_nodup {pairs : List (String × α)} (h : (pairs.map Prod.fst).Nodup) :
    ofList pairs = ⟨pairs⟩ := by
  have hkeys : ((empty : Section α).keys ++ pairs.map Prod.fst).Nodup := h
  exact foldl_insert hkeys

/-- Pairs whose values are changed one by one give the section with these values. -/
theorem entries_ofList_map {β : Type} (f : α → β) (pairs : List (String × α)) :
    (ofList (pairs.map fun pair => (pair.1, f pair.2))).entries =
      (ofList pairs).entries.map fun entry => (entry.1, f entry.2) := by
  have hfold (s : Section α) (s' : Section β)
      (hs : s'.entries = s.entries.map fun entry => (entry.1, f entry.2)) :
      ((pairs.map fun pair => (pair.1, f pair.2)).foldl
          (fun s pair => s.insert pair.1 pair.2) s').entries =
        (pairs.foldl (fun s pair => s.insert pair.1 pair.2) s).entries.map
          fun entry => (entry.1, f entry.2) := by
    induction pairs generalizing s s' with
    | nil => exact hs
    | cons pair pairs ih =>
      refine ih (s.insert pair.1 pair.2) (s'.insert pair.1 (f pair.2)) ?_
      rw [entries_insert, entries_insert, hs, KeyedList.map_put]
  exact hfold empty empty rfl

def size (s : Section α) : Nat :=
  s.entries.length

def isEmpty (s : Section α) : Bool :=
  s.entries.isEmpty

end Section

end VersionCatalog
