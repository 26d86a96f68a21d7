import VersionCatalog.Text.LetterCase
import VersionCatalog.Text.Pieces

namespace VersionCatalog.Naming

/-- The characters that separate the parts of a key. -/
def isSeparator (c : Char) : Bool :=
  c == '-' || c == '_' || c == '.'

/-- The text with its first character in upper case. -/
def capitalize : List Char → List Char
  | [] => []
  | c :: cs => Text.toUpper c ++ cs

/-- The text with its first character in lower case. -/
def decapitalize : List Char → List Char
  | [] => []
  | c :: cs => Text.toLower c ++ cs

/-- The parts of a key run together, each after the first one capitalized and the whole
decapitalized. -/
def camelChars (key : List Char) : List Char :=
  match Text.pieces isSeparator key with
  | [] => []
  | first :: others => decapitalize (first ++ others.flatMap capitalize)

/-- A key as the name of a value: `lib-with-version` becomes `libWithVersion`. -/
def camelCase (key : String) : String :=
  String.ofList (camelChars key.toList)

@[simp] theorem toList_camelCase (key : String) :
    (camelCase key).toList = camelChars key.toList := by
  simp [camelCase]

/-- A key as the name of a type: `libs.versions` becomes `LibsVersions`. -/
def typeName (key : String) : String :=
  String.ofList (capitalize (camelChars key.toList))

@[simp] theorem toList_typeName (key : String) :
    (typeName key).toList = capitalize (camelChars key.toList) := by
  simp [typeName]

end VersionCatalog.Naming
