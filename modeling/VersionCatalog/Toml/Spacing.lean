namespace VersionCatalog.Toml

/-- The blanks inside a line. -/
def isBlankChar (c : Char) : Bool :=
  c == ' ' || c == '\t'

/-- The characters of comments and strings: everything but the control characters, of which only
the tab may stand there. -/
def isTextChar (c : Char) : Bool :=
  c == '\t' || (0x20 ≤ c.toNat && c.toNat != 0x7F)

/-- The text after its leading blanks. -/
def skipBlanks (cs : List Char) : List Char :=
  cs.dropWhile isBlankChar

/-- The text after a line break, which is a line feed with or without a carriage return before
it. -/
def lineBreak? : List Char → Option (List Char)
  | '\n' :: rest => some rest
  | '\r' :: '\n' :: rest => some rest
  | _ => none

/-- The text after the end of a line: blanks, perhaps a comment, and then a line break or the end
of the document. -/
def lineEnd? (cs : List Char) : Option (List Char) :=
  let rest :=
    match skipBlanks cs with
    | '#' :: comment => comment.dropWhile isTextChar
    | rest => rest
  match rest with
  | [] => some []
  | rest => lineBreak? rest

/-- The text after blanks, comments and line breaks, as they may stand between the items of an
array. A comment has to end in a line break; in `inComment` mode one is being passed over. -/
def skipLines (inComment : Bool) : List Char → List Char
  | [] => []
  | '\r' :: '\n' :: rest => skipLines false rest
  | c :: rest =>
    if c = '\n' then skipLines false rest
    else if inComment then
      if isTextChar c then skipLines true rest else c :: rest
    else if isBlankChar c then skipLines false rest
    else if c = '#' then skipLines true rest
    else c :: rest

end VersionCatalog.Toml
