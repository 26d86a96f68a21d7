import VersionCatalog.KeyedList
import VersionCatalog.Toml.KeyPath
import VersionCatalog.Toml.Node

namespace VersionCatalog.Toml

/-- How a table came about: it was written under a header of its own, a longer header ran through
it, or a dotted key did. This decides what may still be added to the table. -/
inductive Origin where
  | header
  | path
  | dotted
  deriving DecidableEq, Repr

/-- An entry of a table: a value, which is finished, a table, or the tables of an array that headers
add to. -/
inductive Item where
  | value (node : Node)
  | table (origin : Origin) (entries : List (String × Item))
  | tables (elements : List (List (String × Item)))

abbrev Entries := List (String × Item)

mutual

def Item.toNode : Item → Node
  | .value node => node
  | .table _ entries => .table (entryNodes entries)
  | .tables elements => .array (elementNodes elements)

def entryNodes : List (String × Item) → List (String × Node)
  | [] => []
  | (key, item) :: rest => (key, item.toNode) :: entryNodes rest

def elementNodes : List (List (String × Item)) → List Node
  | [] => []
  | entries :: rest => .table (entryNodes entries) :: elementNodes rest

end

namespace Entries

def erase (key : String) (entries : Entries) : Entries :=
  entries.filter (·.1 != key)

/-- Changes the table that a path leads to, where `entries` are those of a table of some origin.
Missing tables are made on the way, in the array of tables that a key holds its last table is
meant, and a value leads nowhere. Dotted keys (`byDots`) do not lead into tables that have a header
of their own. -/
def modifyAt (byDots : Bool) (change : Origin → Entries → Option Entries) :
    List String → Origin → Entries → Option Entries
  | [], origin, entries => change origin entries
  | key :: path, _, entries =>
    match entries.lookup key with
    | none => do
      let origin : Origin := if byDots then .dotted else .path
      let inner ← modifyAt byDots change path origin []
      some (KeyedList.put key (.table origin inner) entries)
    | some (.value _) => none
    | some (.table origin inner) =>
      if byDots && origin == .header then none
      else do
        let inner ← modifyAt byDots change path origin inner
        some (KeyedList.put key (.table origin inner) entries)
    | some (.tables elements) => do
      let inner ← modifyAt byDots change path .header (elements.getLast?.getD [])
      some (KeyedList.put key (.tables (elements.dropLast ++ [inner])) entries)

/-- Adds a value under a dotted path. The table that it comes into has to be made by dotted keys if
the path has parents, and not so if it has none, and must not have the name yet. -/
def assign (path : KeyPath) (node : Node) (entries : Entries) : Option Entries :=
  modifyAt true
    (fun origin table =>
      if (origin == .dotted) == path.parents.isEmpty || (table.lookup path.name).isSome then none
      else some (table ++ [(path.name, .value node)]))
    path.parents .header entries

/-- The entries of a table that is written in one line, from its assignments. -/
def ofAssignments : List (KeyPath × Node) → Entries → Option Entries
  | [], entries => some entries
  | (path, node) :: rest, entries => do
    let entries ← entries.assign path node
    ofAssignments rest entries

end Entries

end VersionCatalog.Toml
