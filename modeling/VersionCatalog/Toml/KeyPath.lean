import VersionCatalog.Toml.Quoted

namespace VersionCatalog.Toml

/-- A dotted path of keys: the keys that lead to a table, and the name of an entry in it. -/
structure KeyPath where
  parents : List String
  name : String
  deriving DecidableEq, Repr

namespace KeyPath

/-- The number of keys that no path reaches. -/
def limit : Nat := 80

/-- The path of the keys; there has to be a key, and not too many of them. -/
def ofKeys? (keys : List String) : Option KeyPath :=
  if keys.length < limit then keys.getLast?.map fun name => ⟨keys.dropLast, name⟩ else none

end KeyPath

def isBareKeyChar (c : Char) : Bool :=
  c.isAlphanum || c == '_' || c == '-'

def key? : List Char → Option (String × List Char)
  | [] => none
  | c :: cs =>
    if c = '"' ∨ c = '\'' then lineString? c cs
    else
      let (word, rest) := (c :: cs).span isBareKeyChar
      if word.isEmpty then none else some (String.ofList word, rest)

/-- Reads keys with dots between them, with blanks around each; at most `fuel` of them. -/
def keys? : Nat → List Char → Option (List String × List Char)
  | 0, _ => none
  | fuel + 1, cs => do
    let (key, rest) ← key? (skipBlanks cs)
    match skipBlanks rest with
    | '.' :: rest => do
      let (keys, rest) ← keys? fuel rest
      some (key :: keys, rest)
    | rest => some ([key], rest)

def keyPath? (cs : List Char) : Option (KeyPath × List Char) := do
  let (keys, rest) ← keys? KeyPath.limit cs
  let path ← KeyPath.ofKeys? keys
  some (path, rest)

end VersionCatalog.Toml
