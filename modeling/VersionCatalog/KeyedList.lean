namespace VersionCatalog.KeyedList

variable {κ α : Type}

section Lookup

theorem lookup_eq_none_iff [BEq κ] [LawfulBEq κ] {key : κ} {l : List (κ × α)} :
    l.lookup key = none ↔ key ∉ l.map Prod.fst := by
  rw [List.lookup_eq_none_iff, List.mem_map]
  constructor
  · intro h hmem
    obtain ⟨entry, hentry, rfl⟩ := hmem
    exact absurd (h entry hentry) (by simp)
  · intro h entry hentry
    have hne : key ≠ entry.1 := fun heq => h ⟨entry, hentry, heq.symm⟩
    simpa using hne

/-- In a list of distinct keys a key has the value that it stands with. -/
theorem lookup_eq_some_iff [BEq κ] [LawfulBEq κ] {key : κ} {value : α} {l : List (κ × α)}
    (hkeys : (l.map Prod.fst).Nodup) : l.lookup key = some value ↔ (key, value) ∈ l := by
  induction l with
  | nil => simp
  | cons entry l ih =>
    obtain ⟨k, v⟩ := entry
    rw [List.map_cons, List.nodup_cons] at hkeys
    by_cases h : key = k
    · subst h
      have hlater : (key, value) ∉ l := fun hmem => hkeys.1 (List.mem_map.mpr ⟨_, hmem, rfl⟩)
      simp [hlater, eq_comm]
    · simp [List.lookup_cons, beq_eq_false_iff_ne.mpr h, h, ih hkeys.2]

/-- Distinct keys can be looked up in any order. -/
theorem lookup_of_perm [BEq κ] [LawfulBEq κ] {l m : List (κ × α)}
    (hkeys : (l.map Prod.fst).Nodup) (h : l.Perm m) (key : κ) : m.lookup key = l.lookup key := by
  have hkeys' : (m.map Prod.fst).Nodup := (h.map Prod.fst).nodup_iff.mp hkeys
  ext value
  rw [lookup_eq_some_iff hkeys', lookup_eq_some_iff hkeys, h.mem_iff]

theorem keys_map {β : Type} (f : α → β) (l : List (κ × α)) :
    (l.map fun entry => (entry.1, f entry.2)).map Prod.fst = l.map Prod.fst := by
  rw [List.map_map]
  rfl

theorem lookup_map {β : Type} [BEq κ] (f : α → β) (key : κ) (l : List (κ × α)) :
    (l.map fun entry => (entry.1, f entry.2)).lookup key = (l.lookup key).map f := by
  induction l with
  | nil => rfl
  | cons entry l ih =>
    obtain ⟨k, v⟩ := entry
    simp only [List.map_cons, List.lookup_cons, ih]
    split <;> rfl

end Lookup

variable [DecidableEq κ]

/-- The list in which `key` has `value`: the pair replaces the first one of its key where that stands,
or comes last. -/
def put (key : κ) (value : α) : List (κ × α) → List (κ × α)
  | [] => [(key, value)]
  | entry :: rest => if entry.1 = key then (key, value) :: rest else entry :: put key value rest

theorem lookup_put [BEq κ] [LawfulBEq κ] (key other : κ) (value : α) (l : List (κ × α)) :
    (put key value l).lookup other = if other = key then some value else l.lookup other := by
  induction l with
  | nil =>
    by_cases h : other = key
    · simp [put, h]
    · simp [put, List.lookup_cons, h, beq_eq_false_iff_ne.mpr h]
  | cons entry rest ih =>
    obtain ⟨k, v⟩ := entry
    by_cases hk : k = key
    · subst hk
      by_cases h : other = k
      · simp [put, h]
      · simp [put, List.lookup_cons, beq_eq_false_iff_ne.mpr h, h]
    · simp only [put, hk, if_false, List.lookup_cons, ih]
      by_cases h : other = key
      · subst h
        simp [beq_eq_false_iff_ne.mpr (Ne.symm hk)]
      · simp [h]

/-- The keys stay as they are if `key` is among them, and else it comes last. -/
theorem keys_put (key : κ) (value : α) (l : List (κ × α)) :
    (put key value l).map Prod.fst =
      if key ∈ l.map Prod.fst then l.map Prod.fst else l.map Prod.fst ++ [key] := by
  induction l with
  | nil => simp [put]
  | cons entry rest ih =>
    by_cases hk : entry.1 = key
    · simp [put, hk]
    · have hk' : key ≠ entry.1 := Ne.symm hk
      simp only [put, hk, if_false, List.map_cons, ih, List.mem_cons, hk', false_or]
      split <;> simp

theorem nodup_keys_put (key : κ) (value : α) {l : List (κ × α)} (h : (l.map Prod.fst).Nodup) :
    ((put key value l).map Prod.fst).Nodup := by
  rw [keys_put]
  split
  · exact h
  · rename_i hk
    rw [List.nodup_append]
    refine ⟨h, by simp, ?_⟩
    intro a ha b hb hab
    simp only [List.mem_singleton] at hb
    exact hk (by rw [← hb, ← hab]; exact ha)

theorem mem_put {key : κ} {value : α} {l : List (κ × α)} {entry : κ × α}
    (h : entry ∈ put key value l) : entry = (key, value) ∨ entry ∈ l := by
  induction l with
  | nil => exact .inl (by simpa [put] using h)
  | cons first l ih =>
    rw [put] at h
    split at h
    · rcases List.mem_cons.mp h with rfl | h
      · exact .inl rfl
      · exact .inr (List.mem_cons_of_mem first h)
    · rcases List.mem_cons.mp h with rfl | h
      · exact .inr List.mem_cons_self
      · exact (ih h).imp_right (List.mem_cons_of_mem first)

/-- A new key comes last with its value. -/
theorem put_of_notMem {key : κ} {l : List (κ × α)} (h : key ∉ l.map Prod.fst) (value : α) :
    put key value l = l ++ [(key, value)] := by
  induction l with
  | nil => rfl
  | cons entry l ih =>
    rw [List.map_cons, List.mem_cons, not_or] at h
    rw [put, if_neg (Ne.symm h.1), ih h.2, List.cons_append]

theorem put_put_self (key : κ) (value value' : α) (l : List (κ × α)) :
    put key value (put key value' l) = put key value l := by
  induction l with
  | nil => simp [put]
  | cons entry l ih => by_cases h : entry.1 = key <;> simp [put, h, ih]

/-- Values of different keys can be put in either order if one of the keys is there. -/
theorem put_comm {key other : κ} {l : List (κ × α)} (hne : key ≠ other)
    (hmem : key ∈ l.map Prod.fst) (value value' : α) :
    put key value (put other value' l) = put other value' (put key value l) := by
  induction l with
  | nil => simp at hmem
  | cons entry l ih =>
    by_cases hkey : entry.1 = key
    · have hother : entry.1 ≠ other := hkey ▸ hne
      simp [put, hkey, hne]
    · have hmem' : key ∈ l.map Prod.fst := by simpa [Ne.symm hkey] using hmem
      by_cases hother : entry.1 = other
      · simp [put, hother, hne.symm]
      · simp [put, hkey, hother, ih hmem']

/-- A key that is there once keeps its place, and the other pairs stay as they are. -/
theorem put_of_mem {key : κ} {l : List (κ × α)} (hkeys : (l.map Prod.fst).Nodup)
    (hmem : key ∈ l.map Prod.fst) (value : α) :
    put key value l = l.map fun entry => if entry.1 = key then (key, value) else entry := by
  induction l with
  | nil => simp at hmem
  | cons entry l ih =>
    rw [List.map_cons, List.nodup_cons] at hkeys
    by_cases hkey : entry.1 = key
    · have hlater : ∀ other ∈ l, other.1 ≠ key := by
        rintro other hother rfl
        exact hkeys.1 (hkey ▸ List.mem_map.mpr ⟨other, hother, rfl⟩)
      have hsame : l.map (fun entry => if entry.1 = key then (key, value) else entry) = l := by
        rw [List.map_congr_left fun other hother => if_neg (hlater other hother), List.map_id']
      simp [put, hkey, hsame]
    · have hmem' : key ∈ l.map Prod.fst := by simpa [Ne.symm hkey] using hmem
      simp [put, hkey, ih hkeys.2 hmem']

theorem map_put {β : Type} (f : α → β) (key : κ) (value : α) (l : List (κ × α)) :
    (put key value l).map (fun entry => (entry.1, f entry.2)) =
      put key (f value) (l.map fun entry => (entry.1, f entry.2)) := by
  induction l with
  | nil => rfl
  | cons entry l ih =>
    rw [put, List.map_cons, put]
    split
    · rfl
    · rw [List.map_cons, ih]

/-- The pairs with other keys stay as they are. -/
theorem filter_put (key : κ) (value : α) (l : List (κ × α)) :
    (put key value l).filter (·.1 ≠ key) = l.filter (·.1 ≠ key) := by
  induction l with
  | nil => simp [put]
  | cons entry l ih =>
    rw [put]
    split
    case isTrue hk => simp [hk]
    case isFalse hk => rw [List.filter_cons, List.filter_cons, ih]

theorem lookup_filter_ne [BEq κ] [LawfulBEq κ] (key other : κ) (l : List (κ × α)) :
    (l.filter (·.1 ≠ key)).lookup other = if other = key then none else l.lookup other := by
  induction l with
  | nil => simp
  | cons entry l ih =>
    obtain ⟨k, v⟩ := entry
    by_cases hk : k = key
    · subst hk
      by_cases h : other = k
      · simpa [h] using ih
      · simpa [List.lookup_cons, beq_eq_false_iff_ne.mpr h, h] using ih
    · rw [List.filter_cons_of_pos (by simpa using hk), List.lookup_cons, List.lookup_cons, ih]
      by_cases h : other = key
      · subst h
        simp [beq_eq_false_iff_ne.mpr (Ne.symm hk)]
      · simp [h]

end VersionCatalog.KeyedList
