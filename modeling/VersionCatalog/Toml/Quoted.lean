import VersionCatalog.Toml.Spacing

namespace VersionCatalog.Toml

/-- The end of a string on one line: its quote. -/
def closing? (quote : Char) : List Char → Option (List Char × List Char)
  | c :: rest => if c = quote then some ([], rest) else none
  | [] => none

/-- The end of a multi-line string: three quotes in a row. One or two quotes before them belong to
the string. -/
def multilineClosing? (quote : Char) (cs : List Char) : Option (List Char × List Char) :=
  let quotes := min (cs.takeWhile (· == quote)).length 5
  if quotes < 3 then none else some (List.replicate (quotes - 3) quote, cs.drop quotes)

/-- Cuts a text at the end of the string that it starts in, into the string's body and the text
behind. If the string has escapes, the character after a backslash never closes it. -/
def spanQuoted (close? : List Char → Option (List Char × List Char)) (hasEscapes escaped : Bool) :
    List Char → Option (List Char × List Char)
  | [] => none
  | c :: cs =>
    match if escaped then none else close? (c :: cs) with
    | some closed => some closed
    | none => do
      let (body, rest) ← spanQuoted close? hasEscapes (hasEscapes && !escaped && c == '\\') cs
      some (c :: body, rest)

def hexDigit? (c : Char) : Option Nat :=
  if '0' ≤ c ∧ c ≤ '9' then some (c.toNat - '0'.toNat)
  else if 'a' ≤ c ∧ c ≤ 'f' then some (c.toNat - 'a'.toNat + 10)
  else if 'A' ≤ c ∧ c ≤ 'F' then some (c.toNat - 'A'.toNat + 10)
  else none

/-- The character with the code point that hexadecimal digits give. Surrogates and numbers beyond
the last code point have none. -/
def scalar? (digits : List Char) : Option Char := do
  let values ← digits.mapM hexDigit?
  let n := values.foldl (fun n digit => 16 * n + digit) 0
  if n.isValidChar then some (Char.ofNat n) else none

/-- The character that a letter after a backslash stands for. -/
def escape? (c : Char) : Option Char :=
  if c = 'b' then some '\x08'
  else if c = 't' then some '\t'
  else if c = 'n' then some '\n'
  else if c = 'f' then some '\x0C'
  else if c = 'r' then some '\r'
  else if c = '"' then some '"'
  else if c = '\\' then some '\\'
  else none

/-- Decodes the body of a basic string. In a multi-line body line breaks stand for line feeds, and
a backslash at the end of a line takes away all blanks and line breaks after it, which `skipping`
does. -/
def decodeBasic (multiline skipping : Bool) : List Char → Option (List Char)
  | [] => some []
  | '\\' :: 'u' :: a :: b :: c :: d :: rest => do
    let char ← scalar? [a, b, c, d]
    let text ← decodeBasic multiline false rest
    some (char :: text)
  | '\\' :: 'U' :: a :: b :: c :: d :: e :: f :: g :: h :: rest => do
    let char ← scalar? [a, b, c, d, e, f, g, h]
    let text ← decodeBasic multiline false rest
    some (char :: text)
  | '\\' :: c :: rest =>
    if multiline && (lineBreak? (skipBlanks (c :: rest))).isSome then
      decodeBasic multiline true (c :: rest)
    else do
      let char ← escape? c
      let text ← decodeBasic multiline false rest
      some (char :: text)
  | '\r' :: '\n' :: rest =>
    if !multiline then none
    else if skipping then decodeBasic multiline true rest
    else do
      let text ← decodeBasic multiline false rest
      some ('\n' :: text)
  | c :: rest =>
    if c = '\n' then
      if !multiline then none
      else if skipping then decodeBasic multiline true rest
      else do
        let text ← decodeBasic multiline false rest
        some ('\n' :: text)
    else if skipping && isBlankChar c then decodeBasic multiline true rest
    else if isTextChar c && c != '\\' then do
      let text ← decodeBasic multiline false rest
      some (c :: text)
    else none

/-- Decodes the body of a literal string, which stands for itself. In a multi-line body line breaks
stand for line feeds. -/
def decodeLiteral (multiline : Bool) : List Char → Option (List Char)
  | [] => some []
  | '\r' :: '\n' :: rest =>
    if !multiline then none
    else do
      let text ← decodeLiteral multiline rest
      some ('\n' :: text)
  | c :: rest =>
    if isTextChar c || (multiline && c == '\n') then do
      let text ← decodeLiteral multiline rest
      some (c :: text)
    else none

def lineString? (quote : Char) (cs : List Char) : Option (String × List Char) := do
  let basic := quote == '"'
  let (body, rest) ← spanQuoted (closing? quote) basic false cs
  let text ← if basic then decodeBasic false false body else decodeLiteral false body
  some (String.ofList text, rest)

/-- Reads a multi-line string from the text after its opening quotes. A line break right there does
not belong to it. -/
def multilineString? (quote : Char) (cs : List Char) : Option (String × List Char) := do
  let basic := quote == '"'
  let (body, rest) ← spanQuoted (multilineClosing? quote) basic false ((lineBreak? cs).getD cs)
  let text ← if basic then decodeBasic true false body else decodeLiteral true body
  some (String.ofList text, rest)

/-- Reads a string of any form from the text after its first quote. It is cut off at its closing
quotes before its body is decoded. -/
def string? (quote : Char) : List Char → Option (String × List Char)
  | a :: b :: rest =>
    if a = quote ∧ b = quote then multilineString? quote rest
    else lineString? quote (a :: b :: rest)
  | cs => lineString? quote cs

end VersionCatalog.Toml
