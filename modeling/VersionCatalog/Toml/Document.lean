import VersionCatalog.Toml.Statement

namespace VersionCatalog.Toml

/-- Where the open table goes when it is finished: it is the document itself, an entry of another
table, or a new element of an array. -/
inductive Place where
  | root
  | entry (path : KeyPath)
  | element (path : KeyPath)

/-- A document while it is being read: the tables that are finished, the place of the open table,
and its entries so far. -/
structure Draft where
  root : Entries := []
  place : Place := .root
  here : Entries := []

namespace Draft

/-- Puts the open table in its place and gives the entries of the document. -/
def close (draft : Draft) : Option Entries :=
  match draft.place with
  | .root => some draft.here
  | .entry path =>
    Entries.modifyAt false
      (fun _ table => some (table ++ [(path.name, .table .header draft.here)]))
      path.parents .header draft.root
  | .element path =>
    Entries.modifyAt false
      (fun _ table =>
        match table.lookup path.name with
        | some (.tables elements) =>
          some (KeyedList.put path.name (.tables (elements ++ [draft.here])) table)
        | _ => none)
      path.parents .header draft.root

/-- The entries of the table that the open header is about to continue: those it has already
because longer headers ran through it, or none. A finished table or value of that name is not
continued. -/
def continued? (path : KeyPath) (table : Entries) : Option Entries :=
  match table.lookup path.name with
  | none => some []
  | some (.table .path entries) => some entries
  | some _ => none

/-- The entries of the table that a path leads to by headers, none if it is not there yet. -/
def tableAt : List String → Entries → Entries
  | [], entries => entries
  | key :: path, entries =>
    match entries.lookup key with
    | some (.table _ inner) => tableAt path inner
    | some (.tables elements) => tableAt path (elements.getLast?.getD [])
    | _ => []

/-- Opens the table of a header. What it has already is taken out of its parent. -/
def openTable (path : KeyPath) (root : Entries) : Option Draft := do
  let here ← continued? path (tableAt path.parents root)
  let root ← Entries.modifyAt false (fun _ table => some (table.erase path.name)) path.parents
    .header root
  some { root, place := .entry path, here }

/-- Opens a new element of an array of tables. The array takes its place in its parent now. -/
def openElement (path : KeyPath) (root : Entries) : Option Draft := do
  let root ← Entries.modifyAt false
    (fun _ table =>
      match table.lookup path.name with
      | none => some (table ++ [(path.name, .tables [])])
      | some (.tables _) => some table
      | some _ => none)
    path.parents .header root
  some { root, place := .element path, here := [] }

def add (draft : Draft) : Statement → Option Draft
  | .assignment path node => (draft.here.assign path node).map fun here => { draft with here }
  | .tableHeader path => draft.close.bind (openTable path)
  | .elementHeader path => draft.close.bind (openElement path)

def addAll : List Statement → Draft → Option Draft
  | [], draft => some draft
  | statement :: rest, draft => (draft.add statement).bind (addAll rest)

end Draft

/-- The table that a sequence of statements builds. A header opens a table, the assignments after it
go into that table, and the next header or the end puts it in its place, behind the entries that
its parent has by then. -/
def ofStatements? (statements : List Statement) : Option Node := do
  let draft ← Draft.addAll statements {}
  let entries ← draft.close
  some (.table (entryNodes entries))

/-- What is said of a text that holds no document. It stands for the words of a parser, which also
name the place in the text and what was expected there. -/
def refusal : String := "not a valid TOML document"

/-- The document that a text holds, none if it is not valid. -/
def parse? (text : String) : Option Node := do
  let statements ← Statement.ofText? text.toList
  ofStatements? statements

end VersionCatalog.Toml
