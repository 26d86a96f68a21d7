import Mathlib.Data.List.Forall2
import VersionCatalog.Toml.Node

namespace VersionCatalog.Toml.Node

/-- No table in the node has a key twice. -/
inductive DistinctKeys : Node → Prop
  | string (text : String) : DistinctKeys (.string text)
  | literal (raw : String) : DistinctKeys (.literal raw)
  | boolean (value : Bool) : DistinctKeys (.boolean value)
  | array {items : List Node} (hitems : ∀ item ∈ items, DistinctKeys item) :
    DistinctKeys (.array items)
  | table {entries : List (String × Node)} (hkeys : (entries.map Prod.fst).Nodup)
    (hvalues : ∀ entry ∈ entries, DistinctKeys entry.2) : DistinctKeys (.table entries)

attribute [simp] DistinctKeys.string DistinctKeys.literal DistinctKeys.boolean

@[simp] theorem distinctKeys_array {items : List Node} :
    (array items).DistinctKeys ↔ ∀ item ∈ items, item.DistinctKeys := by
  constructor
  · intro h
    cases h with
    | array hitems => exact hitems
  · exact .array

@[simp] theorem distinctKeys_table {entries : List (String × Node)} :
    (table entries).DistinctKeys ↔
      (entries.map Prod.fst).Nodup ∧ ∀ entry ∈ entries, entry.2.DistinctKeys := by
  constructor
  · intro h
    cases h with
    | table hkeys hvalues => exact ⟨hkeys, hvalues⟩
  · rintro ⟨hkeys, hvalues⟩
    exact .table hkeys hvalues

/-- Values at the same keys, in the same order, that are related key by key. -/
def EntriesRelated (R : String → Node → Node → Prop) : (l m : List (String × Node)) → Prop :=
  List.Forall₂ fun a b => b.1 = a.1 ∧ R a.1 a.2 b.2

/-- Two tables with related values, or else one node that is no table. -/
inductive Entrywise (R : String → Node → Node → Prop) : Node → Node → Prop
  | table {l m : List (String × Node)} (hentries : EntriesRelated R l m) :
    Entrywise R (.table l) (.table m)
  | leaf {node : Node} (hleaf : node.isTable = false) : Entrywise R node node

variable {R : String → Node → Node → Prop} {key : String} {node other : Node}

theorem DistinctKeys.get? (h : node.DistinctKeys) (hget : node.get? key = some other) :
    other.DistinctKeys := by
  cases h with
  | table hkeys hvalues =>
    obtain ⟨before, later, rfl, -⟩ := List.lookup_eq_some_iff.mp hget
    exact hvalues (key, other) (by simp)
  | _ => cases hget

theorem EntriesRelated.keys_eq {l m : List (String × Node)} (h : EntriesRelated R l m) :
    m.map Prod.fst = l.map Prod.fst := by
  induction h with
  | nil => rfl
  | cons hab _ ih => rw [List.map_cons, List.map_cons, hab.1, ih]

theorem EntriesRelated.imp_of_distinctKeys {S : String → Node → Node → Prop}
    {l m : List (String × Node)} (h : EntriesRelated R l m)
    (hl : ∀ entry ∈ l, entry.2.DistinctKeys)
    (hRS : ∀ ⦃key a b⦄, R key a b → a.DistinctKeys → S key a b) : EntriesRelated S l m := by
  induction h with
  | nil => exact .nil
  | cons hab _ ih =>
    obtain ⟨hfirst, hothers⟩ := List.forall_mem_cons.mp hl
    exact .cons ⟨hab.1, hRS hab.2 hfirst⟩ (ih hothers)

theorem EntriesRelated.forall_mem {P : Node → Prop} {l m : List (String × Node)}
    (h : EntriesRelated (fun _ _ b => P b) l m) : ∀ entry ∈ m, P entry.2 := by
  induction h with
  | nil => simp
  | cons hab _ ih => exact List.forall_mem_cons.mpr ⟨hab.2, ih⟩

theorem EntriesRelated.map_eq {α : Type} {read : Node → α} {l m : List (String × Node)}
    (h : EntriesRelated (fun _ a b => read b = read a) l m) :
    m.map (fun entry => (entry.1, read entry.2)) =
      l.map fun entry => (entry.1, read entry.2) := by
  induction h with
  | nil => rfl
  | cons hab _ ih => rw [List.map_cons, List.map_cons, hab.1, hab.2, ih]

theorem EntriesRelated.lookup {l m : List (String × Node)} (h : EntriesRelated R l m)
    (key : String) : Option.Rel (R key) (l.lookup key) (m.lookup key) := by
  induction h with
  | nil => exact .none
  | @cons a b l m hab _ ih =>
    obtain ⟨name, value⟩ := a
    obtain ⟨name', value'⟩ := b
    obtain ⟨rfl, hvalue⟩ := hab
    by_cases hkey : key = name'
    · subst hkey
      simpa using hvalue
    · simpa [List.lookup_cons, beq_eq_false_iff_ne.mpr hkey] using ih

theorem Entrywise.get? (h : Entrywise R node other) (key : String) :
    Option.Rel (R key) (node.get? key) (other.get? key) := by
  cases h with
  | table hentries => exact hentries.lookup key
  | leaf hleaf =>
    cases node with
    | table entries => cases hleaf
    | _ => exact .none

end VersionCatalog.Toml.Node
