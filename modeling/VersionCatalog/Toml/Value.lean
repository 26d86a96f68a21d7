import VersionCatalog.Toml.Literal
import VersionCatalog.Toml.Table

namespace VersionCatalog.Toml

def scalarValue? : List Char → Option (Node × List Char)
  | [] => none
  | c :: cs =>
    if c = '"' ∨ c = '\'' then (string? c cs).map fun (text, rest) => (.string text, rest)
    else bare? (c :: cs)

/-- Reads the items of an array after its bracket or a comma, up to the closing bracket; at most
`fuel` of them. -/
def items? (value? : List Char → Option (Node × List Char)) :
    Nat → List Char → Option (List Node × List Char)
  | 0, _ => none
  | fuel + 1, cs =>
    match skipLines false cs with
    | ']' :: rest => some ([], rest)
    | cs => do
      let (item, rest) ← value? cs
      match skipLines false rest with
      | ']' :: rest => some ([item], rest)
      | ',' :: rest => do
        let (items, rest) ← items? value? fuel rest
        some (item :: items, rest)
      | _ => none

def assignment? (value? : List Char → Option (Node × List Char)) (cs : List Char) :
    Option ((KeyPath × Node) × List Char) := do
  let (path, rest) ← keyPath? cs
  match rest with
  | '=' :: rest => do
    let (node, rest) ← value? (skipBlanks rest)
    some ((path, node), rest)
  | _ => none

/-- Reads the assignments of an inline table, of which there is at least one, up to the closing
brace; at most `fuel` of them. -/
def assignments? (value? : List Char → Option (Node × List Char)) :
    Nat → List Char → Option (List (KeyPath × Node) × List Char)
  | 0, _ => none
  | fuel + 1, cs => do
    let (first, rest) ← assignment? value? cs
    match skipBlanks rest with
    | '}' :: rest => some ([first], rest)
    | ',' :: rest => do
      let (others, rest) ← assignments? value? fuel rest
      some (first :: others, rest)
    | _ => none

/-- Reads an inline table after its brace. -/
def inlineTable? (value? : List Char → Option (Node × List Char)) (cs : List Char) :
    Option (Node × List Char) :=
  match skipBlanks cs with
  | '}' :: rest => some (.table [], rest)
  | cs => do
    let (assignments, rest) ← assignments? value? cs.length cs
    let entries ← Entries.ofAssignments assignments []
    some (.table (entryNodes entries), rest)

/-- Reads a value in which arrays and inline tables stand inside each other at most `depth` deep. -/
def value? : Nat → List Char → Option (Node × List Char)
  | depth + 1, '[' :: cs => (items? (value? depth) cs.length cs).map fun (items, rest) =>
    (.array items, rest)
  | depth + 1, '{' :: cs => inlineTable? (value? depth) cs
  | _, cs => scalarValue? cs

/-- How deep arrays and inline tables may stand inside each other. -/
def depthLimit : Nat := 79

end VersionCatalog.Toml
