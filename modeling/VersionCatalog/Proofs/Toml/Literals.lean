import VersionCatalog.Proofs.Toml.Entrywise

namespace VersionCatalog.Toml

namespace Node

/-- A literal stands in the node, by itself or inside arrays and tables. -/
inductive HasLiteral (raw : String) : Node → Prop
  | here : HasLiteral raw (.literal raw)
  | item {items : List Node} {item : Node} (hitem : item ∈ items) (h : HasLiteral raw item) :
    HasLiteral raw (.array items)
  | entry {entries : List (String × Node)} {entry : String × Node} (hentry : entry ∈ entries)
    (h : HasLiteral raw entry.2) : HasLiteral raw (.table entries)

/-- Something holds of all literals in a node. -/
def LiteralsAre (P : String → Prop) (node : Node) : Prop :=
  ∀ raw, node.HasLiteral raw → P raw

variable {P : String → Prop}

@[simp] theorem literalsAre_string (text : String) : (string text).LiteralsAre P := by
  intro raw h
  cases h

@[simp] theorem literalsAre_boolean (value : Bool) : (boolean value).LiteralsAre P := by
  intro raw h
  cases h

@[simp] theorem literalsAre_literal {raw : String} : (literal raw).LiteralsAre P ↔ P raw := by
  constructor
  · exact fun h => h raw .here
  · intro h other hother
    cases hother
    exact h

@[simp] theorem literalsAre_array {items : List Node} :
    (array items).LiteralsAre P ↔ ∀ item ∈ items, item.LiteralsAre P := by
  constructor
  · exact fun h item hitem raw hraw => h raw (.item hitem hraw)
  · intro h raw hraw
    cases hraw with
    | item hitem hraw => exact h _ hitem raw hraw

@[simp] theorem literalsAre_table {entries : List (String × Node)} :
    (table entries).LiteralsAre P ↔ ∀ entry ∈ entries, entry.2.LiteralsAre P := by
  constructor
  · exact fun h entry hentry raw hraw => h raw (.entry hentry hraw)
  · intro h raw hraw
    cases hraw with
    | entry hentry hraw => exact h _ hentry raw hraw

/-- No table in the node has a key twice, and something holds of all its literals. -/
structure IsSound (P : String → Prop) (node : Node) : Prop where
  distinctKeys : node.DistinctKeys
  literalsAre : node.LiteralsAre P

theorem isSound_string (text : String) : (string text).IsSound P :=
  ⟨.string text, literalsAre_string text⟩

theorem isSound_boolean (value : Bool) : (boolean value).IsSound P :=
  ⟨.boolean value, literalsAre_boolean value⟩

theorem isSound_literal {raw : String} (h : P raw) : (literal raw).IsSound P :=
  ⟨.literal raw, literalsAre_literal.mpr h⟩

theorem isSound_array {items : List Node} :
    (array items).IsSound P ↔ ∀ item ∈ items, item.IsSound P := by
  constructor
  · intro h item hitem
    exact ⟨distinctKeys_array.mp h.distinctKeys item hitem,
      literalsAre_array.mp h.literalsAre item hitem⟩
  · intro h
    exact ⟨distinctKeys_array.mpr fun item hitem => (h item hitem).distinctKeys,
      literalsAre_array.mpr fun item hitem => (h item hitem).literalsAre⟩

theorem isSound_table {entries : List (String × Node)} : (table entries).IsSound P ↔
    (entries.map Prod.fst).Nodup ∧ ∀ entry ∈ entries, entry.2.IsSound P := by
  constructor
  · intro h
    obtain ⟨hkeys, hvalues⟩ := distinctKeys_table.mp h.distinctKeys
    exact ⟨hkeys, fun entry hentry =>
      ⟨hvalues entry hentry, literalsAre_table.mp h.literalsAre entry hentry⟩⟩
  · rintro ⟨hkeys, hvalues⟩
    exact ⟨distinctKeys_table.mpr ⟨hkeys, fun entry hentry => (hvalues entry hentry).distinctKeys⟩,
      literalsAre_table.mpr fun entry hentry => (hvalues entry hentry).literalsAre⟩

end Node

end VersionCatalog.Toml
