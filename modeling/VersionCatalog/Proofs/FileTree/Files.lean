import VersionCatalog.Proofs.FileTree.Changes

namespace VersionCatalog

namespace KeyedList

variable {κ α : Type} [DecidableEq κ] {key other : κ} {value value' : α} {l : List (κ × α)}

private theorem mem_keys_put (h : key ∈ l.map Prod.fst) (other : κ) (value : α) :
    key ∈ (put other value l).map Prod.fst := by
  rw [keys_put]
  split_ifs
  · exact h
  · exact List.mem_append_left _ h

private theorem self_mem_keys_put (key : κ) (value : α) (l : List (κ × α)) :
    key ∈ (put key value l).map Prod.fst := by
  rw [keys_put]
  split_ifs with h
  · exact h
  · simp

private theorem put_of_lookup (h : l.lookup key = some value) : put key value l = l := by
  induction l with
  | nil => simp at h
  | cons entry l ih =>
    obtain ⟨k, v⟩ := entry
    by_cases hkey : k = key
    · subst hkey
      simp_all [put]
    · rw [List.lookup_cons, beq_eq_false_iff_ne.mpr (Ne.symm hkey)] at h
      simp [put, hkey, ih h]

/-- The list after pairs were put one after the other. -/
def putAll : List (κ × α) → List (κ × α) → List (κ × α)
  | [], l => l
  | pair :: pairs, l => putAll pairs (put pair.1 pair.2 l)

private theorem mem_keys_putAll (h : key ∈ l.map Prod.fst) (pairs : List (κ × α)) :
    key ∈ (putAll pairs l).map Prod.fst := by
  induction pairs generalizing l with
  | nil => exact h
  | cons pair pairs ih => exact ih (mem_keys_put h pair.1 pair.2)

private theorem lookup_putAll_of_notMem [BEq κ] [LawfulBEq κ] {pairs : List (κ × α)}
    (h : key ∉ pairs.map Prod.fst) (l : List (κ × α)) :
    (putAll pairs l).lookup key = l.lookup key := by
  induction pairs generalizing l with
  | nil => rfl
  | cons pair pairs ih =>
    obtain ⟨hne, hmem⟩ := List.ne_and_not_mem_of_not_mem_cons h
    have hrest := ih hmem (put pair.1 pair.2 l)
    rw [lookup_put, if_neg hne] at hrest
    exact hrest

/-- What a key had is forgotten if it is put again, and else it might be put last. -/
theorem putAll_put (h : key ∈ l.map Prod.fst) (pairs : List (κ × α)) (value : α) :
    putAll pairs (put key value l) =
      if key ∈ pairs.map Prod.fst then putAll pairs l else put key value (putAll pairs l) := by
  induction pairs generalizing l with
  | nil => simp [putAll]
  | cons pair pairs ih =>
    by_cases hpair : key = pair.1
    · have hforget : put pair.1 pair.2 (put key value l) = put pair.1 pair.2 l := by
        rw [hpair, put_put_self]
      rw [if_pos (by simp [hpair]), putAll, hforget, putAll]
    · have hcomm : put pair.1 pair.2 (put key value l) = put key value (put pair.1 pair.2 l) :=
        (put_comm hpair h value pair.2).symm
      have hpairs : key ∈ (pair :: pairs).map Prod.fst ↔ key ∈ pairs.map Prod.fst := by
        simp [hpair]
      simp only [putAll, hcomm, hpairs, ih (mem_keys_put h pair.1 pair.2)]

private theorem putAll_putAll (pairs l : List (κ × α)) :
    putAll pairs (putAll pairs l) = putAll pairs l := by
  induction pairs generalizing l with
  | nil => rfl
  | cons pair pairs ih =>
    obtain ⟨key, value⟩ := pair
    have honce := ih (put key value l)
    have hkey : key ∈ (putAll pairs (put key value l)).map Prod.fst :=
      mem_keys_putAll (self_mem_keys_put key value l) pairs
    simp only [putAll]
    rw [putAll_put hkey, honce]
    split_ifs with hmem
    · rfl
    · refine put_of_lookup ?_
      rw [lookup_putAll_of_notMem hmem, lookup_put, if_pos rfl]

end KeyedList

namespace FileTree

/-- The tree after files were written at locations, one after the other. -/
def putFiles (tree : FileTree) : List (Location × ByteArray) → FileTree
  | [] => tree
  | file :: files => (tree.put file.1 (.file file.2)).putFiles files

theorem putFiles_append (tree : FileTree) (files others : List (Location × ByteArray)) :
    tree.putFiles (files ++ others) = (tree.putFiles files).putFiles others := by
  induction files generalizing tree with
  | nil => rfl
  | cons file files ih => exact ih (tree.put file.1 (.file file.2))

theorem putFiles_eq (tree : FileTree) (files : List (Location × ByteArray)) :
    tree.putFiles files = FileTree.mk
      (KeyedList.putAll (files.map fun file => (file.1, Entry.file file.2)) tree.entries)
      tree.current := by
  induction files generalizing tree with
  | nil => rfl
  | cons file files ih => exact ih (tree.put file.1 (.file file.2))

theorem putFiles_putFiles (tree : FileTree) (files : List (Location × ByteArray)) :
    (tree.putFiles files).putFiles files = tree.putFiles files := by
  rw [putFiles_eq, putFiles_eq, KeyedList.putAll_putAll]

private theorem lookup?_putFiles_of_notMem {tree : FileTree} {files : List (Location × ByteArray)}
    {location : Location} (h : location ∉ files.map Prod.fst) :
    (tree.putFiles files).lookup? location = tree.lookup? location := by
  have hkey : location ∉ (files.map fun file => (file.1, Entry.file file.2)).map Prod.fst := by
    simpa using h
  simp only [putFiles_eq, lookup?, KeyedList.lookup_putAll_of_notMem hkey]

/-- The last file at a location is the one that stays. -/
theorem lookup?_putFiles_of_last {tree : FileTree} {before after : List (Location × ByteArray)}
    {location : Location} (hlocation : location ≠ []) (content : ByteArray)
    (hafter : location ∉ after.map Prod.fst) :
    (tree.putFiles (before ++ (location, content) :: after)).lookup? location =
      some (.file content) := by
  rw [putFiles_append, putFiles, lookup?_putFiles_of_notMem hafter, lookup?_put _ _ _ _ hlocation,
    if_pos rfl]

/-- If all the files at a location have one content, it does not matter which is the last. -/
theorem lookup?_putFiles_of_mem {tree : FileTree} {files : List (Location × ByteArray)}
    {location : Location} {content : ByteArray} (hlocation : location ≠ [])
    (hmem : (location, content) ∈ files)
    (hsame : ∀ file ∈ files, file.1 = location → file.2 = content) :
    (tree.putFiles files).lookup? location = some (.file content) := by
  induction files generalizing tree with
  | nil => simp at hmem
  | cons file files ih =>
    have hrest : ∀ other ∈ files, other.1 = location → other.2 = content :=
      fun other hother => hsame other (List.mem_cons_of_mem file hother)
    by_cases hlater : location ∈ files.map Prod.fst
    · obtain ⟨other, hother, hplace⟩ := List.mem_map.mp hlater
      have hcontent := hrest other hother hplace
      exact ih (hplace ▸ hcontent ▸ hother) hrest
    · have hfirst : (location, content) = file := by
        rcases List.mem_cons.mp hmem with hfile | hfile
        · exact hfile
        · exact absurd (List.mem_map_of_mem hfile) hlater
      rw [putFiles, lookup?_putFiles_of_notMem hlater, ← hfirst,
        lookup?_put _ _ _ _ hlocation, if_pos rfl]

/-- Files can be written in any order if no two of them at one location differ. -/
theorem lookup?_putFiles_of_perm {tree : FileTree} {files others : List (Location × ByteArray)}
    (hperm : others.Perm files) (hroot : ∀ file ∈ files, file.1 ≠ [])
    (hsame : ∀ file ∈ files, ∀ other ∈ files, other.1 = file.1 → other.2 = file.2)
    (location : Location) :
    (tree.putFiles others).lookup? location = (tree.putFiles files).lookup? location := by
  by_cases hmem : location ∈ files.map Prod.fst
  · obtain ⟨file, hfile, rfl⟩ := List.mem_map.mp hmem
    have hother : (file.1, file.2) ∈ others := hperm.mem_iff.mpr hfile
    rw [lookup?_putFiles_of_mem (hroot file hfile) hfile (hsame file hfile),
      lookup?_putFiles_of_mem (hroot file hfile) hother
        fun other h => hsame file hfile other (hperm.mem_iff.mp h)]
  · have hnone : location ∉ others.map Prod.fst := by
      rwa [(hperm.map Prod.fst).mem_iff]
    rw [lookup?_putFiles_of_notMem hmem, lookup?_putFiles_of_notMem hnone]

end FileTree

end VersionCatalog
