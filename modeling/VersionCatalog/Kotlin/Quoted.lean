import VersionCatalog.Text.Pieces

namespace VersionCatalog.Kotlin

/-- A character inside a string literal: the two that end or open something there are escaped, and
so are the dollar of templates, line breaks and tabs. -/
def escapeChar (c : Char) : List Char :=
  if c = '\\' then ['\\', '\\']
  else if c = '"' then ['\\', '"']
  else if c = '$' then ['\\', '$']
  else if c = '\n' then ['\\', 'n']
  else if c = '\r' then ['\\', 'r']
  else if c = '\t' then ['\\', 't']
  else [c]

/-- The string literal for a text, over characters. -/
def quoteChars (cs : List Char) : List Char :=
  '"' :: cs.flatMap escapeChar ++ ['"']

def quote (text : String) : String :=
  String.ofList (quoteChars text.toList)

@[simp] theorem toList_quote (text : String) : (quote text).toList = quoteChars text.toList := by
  simp [quote]

def listOf : List String → String
  | [] => "emptyList<String>()"
  | texts => "listOf(" ++ Text.joinWith ", " (texts.map quote) ++ ")"

end VersionCatalog.Kotlin
