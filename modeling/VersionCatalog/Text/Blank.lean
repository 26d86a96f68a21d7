namespace VersionCatalog.Text

/-- White space of any script: the controls from tab to carriage return, the blank, and the spaces
and separators beyond ASCII. -/
def isWhiteSpace (c : Char) : Bool :=
  let n := c.toNat
  (0x09 ≤ n && n ≤ 0x0D) || n == 0x20 || n == 0x85 || n == 0xA0 || n == 0x1680 ||
    (0x2000 ≤ n && n ≤ 0x200A) || n == 0x2028 || n == 0x2029 || n == 0x202F || n == 0x205F ||
    n == 0x3000

/-- Whether a text is empty or holds only white space. -/
def isBlank (s : String) : Bool :=
  s.toList.all isWhiteSpace

end VersionCatalog.Text
