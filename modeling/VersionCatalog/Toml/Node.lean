namespace VersionCatalog.Toml

/-- A value of a document. Integers, floats and dates are literals that keep their written form;
tables keep the order of their entries. -/
inductive Node where
  | string (text : String)
  | literal (raw : String)
  | boolean (value : Bool)
  | array (items : List Node)
  | table (entries : List (String × Node))
  deriving Repr, Inhabited

namespace Node

def get? : Node → String → Option Node
  | .table entries, key => entries.lookup key
  | _, _ => none

def string? : Node → Option String
  | .string text => some text
  | _ => none

/-- The text of a string or a literal. -/
def text? : Node → Option String
  | .string text => some text
  | .literal raw => some raw
  | _ => none

def boolean? : Node → Option Bool
  | .boolean value => some value
  | _ => none

def array? : Node → Option (List Node)
  | .array items => some items
  | _ => none

def table? : Node → Option (List (String × Node))
  | .table entries => some entries
  | _ => none

def isTable : Node → Bool
  | .table _ => true
  | _ => false

/-- The text at a key of a table, or the empty text. -/
def textAt (node : Node) (key : String) : String :=
  ((node.get? key).bind text?).getD ""

/-- The node that a path of keys leads to through tables. -/
def find? (node : Node) : List String → Option Node
  | [] => some node
  | key :: path => (node.get? key).bind (find? · path)

end Node

end VersionCatalog.Toml
