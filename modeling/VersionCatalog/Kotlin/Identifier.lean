import VersionCatalog.Naming
import VersionCatalog.Text.Alphanumeric

namespace VersionCatalog.Kotlin

/-- The words that the language keeps for itself. -/
def keywords : List String := [
  "as", "break", "class", "continue", "do", "else", "false", "for", "fun", "if", "in",
  "interface", "is", "null", "object", "package", "return", "super", "this", "throw", "true",
  "try", "typealias", "typeof", "val", "var", "when", "while"]

/-- The mark that opens and closes a quoted identifier. -/
def backquote : Char := '\x60'

/-- The characters that member names may not hold, not even quoted. -/
def isForbidden (c : Char) : Bool :=
  c == '.' || c == ';' || c == '[' || c == ']' || c == '/' || c == '<' || c == '>' || c == ':' ||
    c == '\\' || c == backquote

/-- The name with an underscore in the place of each forbidden character. -/
def sanitize (name : List Char) : List Char :=
  name.map fun c => if isForbidden c then '_' else c

/-- The characters of identifiers that are written without quotes. -/
def isWordChar (c : Char) : Bool :=
  c == '_' || Text.isAlphanumeric c

/-- Whether a name can be written without quotes: it is not empty, holds word characters only, does
not begin with an ASCII digit and is no keyword. -/
def isPlain (name : List Char) : Bool :=
  !name.isEmpty && !(name.head?.any Char.isDigit) && name.all isWordChar &&
    !keywords.contains (String.ofList name)

/-- The identifier for a name. What the language would not take as it stands is written between
backquotes. -/
def identifierChars (name : List Char) : List Char :=
  let clean := sanitize name
  if isPlain clean then clean else backquote :: clean ++ [backquote]

def identifier (name : String) : String :=
  String.ofList (identifierChars name.toList)

@[simp] theorem toList_identifier (name : String) :
    (identifier name).toList = identifierChars name.toList := by
  simp [identifier]

/-- The identifier of the value that is declared for a catalog key. -/
def memberName (key : String) : String :=
  identifier (Naming.camelCase key)

end VersionCatalog.Kotlin
