import VersionCatalog.Toml.Datetime
import VersionCatalog.Toml.Node

namespace VersionCatalog.Toml

def isBareChar (c : Char) : Bool :=
  c.isAlphanum || c == '+' || c == '-' || c == '_' || c == '.' || c == ':'

/-- Cuts a text after the bare value that it starts with. A blank after a date belongs to the value
if more characters of a bare value follow it. -/
def spanBare (cs : List Char) : List Char × List Char :=
  let (word, rest) := cs.span isBareChar
  match rest with
  | ' ' :: next :: rest =>
    if isDate word && isBareChar next then
      let (time, rest) := (next :: rest).span isBareChar
      (word ++ ' ' :: time, rest)
    else (word, ' ' :: next :: rest)
  | rest => (word, rest)

def isLiteral (cs : List Char) : Bool :=
  (integer? cs).isSome || isFloat cs || isDatetime cs

def ofBare? (word : List Char) : Option Node :=
  if word = ['t', 'r', 'u', 'e'] then some (.boolean true)
  else if word = ['f', 'a', 'l', 's', 'e'] then some (.boolean false)
  else if isLiteral word then some (.literal (String.ofList word))
  else none

/-- Reads a value without quotes or brackets. -/
def bare? (cs : List Char) : Option (Node × List Char) :=
  let (word, rest) := spanBare cs
  (ofBare? word).map (·, rest)

end VersionCatalog.Toml
