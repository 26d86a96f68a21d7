import VersionCatalog.KeyedList
import VersionCatalog.Proofs.Toml.Entrywise

namespace VersionCatalog.Toml.Node

/-- The entries of a table, and what they become by any combination of moves, of additions and
removals of entries whose keys are not `known`, and of changes of the value at a key that `change`
allows there. -/
inductive Rearranged (known : List String) (change : String → Node → Node → Prop) :
    (l m : List (String × Node)) → Prop
  | moved {l m : List (String × Node)} (h : l.Perm m) : Rearranged known change l m
  | added {key : String} {node : Node} {l : List (String × Node)} (hkey : key ∉ known)
    (hnew : key ∉ l.map Prod.fst) (hnode : node.DistinctKeys) :
    Rearranged known change l ((key, node) :: l)
  | removed {key : String} {node : Node} {l : List (String × Node)} (hkey : key ∉ known) :
    Rearranged known change ((key, node) :: l) l
  | changed {key : String} {node node' : Node} {l : List (String × Node)}
    (h : change key node node') : Rearranged known change ((key, node) :: l) ((key, node') :: l)
  | trans {l m n : List (String × Node)} (hlm : Rearranged known change l m)
    (hmn : Rearranged known change m n) : Rearranged known change l n

/-- Two tables of which one is the other rearranged, or one node of any kind. -/
inductive TableRearranged (known : List String) (change : String → Node → Node → Prop) :
    Node → Node → Prop
  | table {l m : List (String × Node)} (h : Rearranged known change l m) :
    TableRearranged known change (.table l) (.table m)
  | same (node : Node) : TableRearranged known change node node

/-- A change of values that keeps the keys of their tables distinct. -/
def KeepsDistinct (change : String → Node → Node → Prop) : Prop :=
  ∀ ⦃key node node'⦄, change key node node' → node.DistinctKeys → node'.DistinctKeys

variable {known : List String} {change : String → Node → Node → Prop}
  {l m : List (String × Node)} {node node' : Node}

theorem Rearranged.distinctKeys (h : Rearranged known change l m)
    (hchange : KeepsDistinct change) (hl : (table l).DistinctKeys) :
    (table m).DistinctKeys := by
  induction h with
  | moved h =>
    rw [distinctKeys_table] at hl ⊢
    exact ⟨(h.map Prod.fst).nodup_iff.mp hl.1, fun entry hentry => hl.2 entry (h.mem_iff.mpr hentry)⟩
  | added hkey hnew hnode =>
    rw [distinctKeys_table] at hl ⊢
    exact ⟨List.nodup_cons.mpr ⟨hnew, hl.1⟩, List.forall_mem_cons.mpr ⟨hnode, hl.2⟩⟩
  | removed hkey =>
    rw [distinctKeys_table] at hl ⊢
    exact ⟨(List.nodup_cons.mp hl.1).2, (List.forall_mem_cons.mp hl.2).2⟩
  | changed h =>
    rw [distinctKeys_table] at hl ⊢
    obtain ⟨hnode, hothers⟩ := List.forall_mem_cons.mp hl.2
    exact ⟨hl.1, List.forall_mem_cons.mpr ⟨hchange h hnode, hothers⟩⟩
  | trans _ _ ihl ihm => exact ihm (ihl hl)

/-- What is read at a known key stays the same if no change of the value there matters for it. -/
theorem Rearranged.lookup {α : Type} {key : String} {read : Node → α}
    (h : Rearranged known change l m) (hchange : KeepsDistinct change)
    (hl : (table l).DistinctKeys) (hkey : key ∈ known)
    (hread : ∀ ⦃a b⦄, change key a b → a.DistinctKeys → read b = read a) :
    (m.lookup key).map read = (l.lookup key).map read := by
  induction h with
  | moved h => rw [KeyedList.lookup_of_perm (distinctKeys_table.mp hl).1 h]
  | added hother _ _ =>
    have hne := ne_of_mem_of_not_mem hkey hother
    rw [List.lookup_cons, beq_eq_false_iff_ne.mpr hne]
  | removed hother =>
    have hne := ne_of_mem_of_not_mem hkey hother
    rw [List.lookup_cons, beq_eq_false_iff_ne.mpr hne]
  | @changed name a b l h =>
    by_cases hname : key = name
    · subst hname
      have ha : a.DistinctKeys := (distinctKeys_table.mp hl).2 (key, a) (by simp)
      simp [hread h ha]
    · simp [List.lookup_cons, beq_eq_false_iff_ne.mpr hname]
  | trans hlm _ ihl ihm => rw [ihm (hlm.distinctKeys hchange hl), ihl hl]

/-- A value that never changes is found as it was. -/
theorem Rearranged.lookup_eq {key : String} (h : Rearranged known change l m)
    (hchange : KeepsDistinct change) (hl : (table l).DistinctKeys) (hkey : key ∈ known)
    (hsame : ∀ ⦃a b⦄, ¬change key a b) : m.lookup key = l.lookup key := by
  have hlookup : (m.lookup key).map id = (l.lookup key).map id :=
    h.lookup hchange hl hkey fun a b hab => absurd hab (@hsame a b)
  simpa using hlookup

theorem TableRearranged.distinctKeys (h : TableRearranged known change node node')
    (hchange : KeepsDistinct change) (hnode : node.DistinctKeys) : node'.DistinctKeys := by
  cases h with
  | table h => exact h.distinctKeys hchange hnode
  | same => exact hnode

/-- Tables whose values change one by one keep distinct keys. -/
theorem Entrywise.distinctKeys {R : String → Node → Node → Prop} (h : Entrywise R node node')
    (hchange : KeepsDistinct R) (hnode : node.DistinctKeys) : node'.DistinctKeys := by
  cases h with
  | leaf => exact hnode
  | table hentries =>
    rw [distinctKeys_table] at hnode ⊢
    rw [hentries.keys_eq]
    exact ⟨hnode.1, (hentries.imp_of_distinctKeys hnode.2 hchange).forall_mem⟩

end VersionCatalog.Toml.Node
