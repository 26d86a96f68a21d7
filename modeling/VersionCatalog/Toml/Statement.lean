import VersionCatalog.Toml.Value

namespace VersionCatalog.Toml

/-- A statement of a document, on lines of its own: an assignment, or the header of a table or of an
element of an array. -/
inductive Statement where
  | assignment (path : KeyPath) (node : Node)
  | tableHeader (path : KeyPath)
  | elementHeader (path : KeyPath)

namespace Statement

/-- Reads a statement, which ends at the end of a line. -/
def read? (cs : List Char) : Option (Statement × List Char) :=
  match cs with
  | '[' :: '[' :: cs => do
    let (path, rest) ← keyPath? cs
    match rest with
    | ']' :: ']' :: rest => (lineEnd? rest).map (.elementHeader path, ·)
    | _ => none
  | '[' :: cs => do
    let (path, rest) ← keyPath? cs
    match rest with
    | ']' :: rest => (lineEnd? rest).map (.tableHeader path, ·)
    | _ => none
  | cs => do
    let ((path, node), rest) ← assignment? (value? depthLimit) cs
    (lineEnd? rest).map (.assignment path node, ·)

/-- Reads statements and the empty lines between them up to the end; at most `fuel` lines. -/
def readAll? : Nat → List Char → Option (List Statement)
  | 0, _ => none
  | fuel + 1, cs =>
    match skipBlanks cs with
    | [] => some []
    | c :: cs =>
      if c = '#' ∨ c = '\n' ∨ c = '\r' then do
        let rest ← lineEnd? (c :: cs)
        readAll? fuel rest
      else do
        let (statement, rest) ← read? (c :: cs)
        let statements ← readAll? fuel rest
        some (statement :: statements)

/-- The statements of a text, in which a byte order mark may come first. -/
def ofText? (text : List Char) : Option (List Statement) :=
  match text with
  | '\uFEFF' :: cs => readAll? (cs.length + 1) cs
  | cs => readAll? (cs.length + 1) cs

end Statement

end VersionCatalog.Toml
