import VersionCatalog.Text.Pieces

namespace VersionCatalog

/-- A path as it is written, relative unless it begins with a slash. Joining paths and taking them
apart normalizes nothing and looks at no file. -/
structure Path where
  text : String
  deriving DecidableEq, Repr, Inhabited

namespace Path

/-- Whether a path starts at the root. -/
def isAbsolute (p : Path) : Bool :=
  p.text.toList.head? == some '/'

/-- Whether a name can follow a path without a slash between them. -/
def isOpen (p : Path) : Bool :=
  match p.text.toList.getLast? with
  | none => true
  | some c => c == '/'

/-- The path that leads to `path` from `base`. An absolute path leads there from anywhere; a slash
is put between the two if there is none, also before an empty path. -/
def join (base path : Path) : Path :=
  if path.isAbsolute then path
  else if base.isOpen then ⟨base.text ++ path.text⟩
  else ⟨base.text ++ "/" ++ path.text⟩

/-- The pieces of a path between its slashes. -/
def segments (p : Path) : List (List Char) :=
  Text.pieces (· == '/') p.text.toList

/-- Whether a piece of a path names something: it is neither empty nor a single dot. -/
def isName (segment : List Char) : Bool :=
  segment != [] && segment != ['.']

/-- The path of pieces; a first piece that is empty stands for the root. -/
def ofSegments : List (List Char) → Path
  | [[]] => ⟨"/"⟩
  | segments => ⟨String.ofList (List.intercalate ['/'] segments)⟩

/-- The pieces that are left, last one first, when the names at the end are taken off one after
the other together with the empty pieces and dots before them. -/
def shortenings : List (List Char) → List (List (List Char))
  | [] => []
  | segment :: before =>
    if isName segment then before.dropWhile (!isName ·) :: shortenings before
    else shortenings before

/-- The paths above a path, the nearest first. Above a relative path that is not empty the last one
is the empty path. -/
def parents (p : Path) : List Path :=
  match p.segments with
  | [] => []
  | first :: others =>
    (shortenings others.reverse).map (fun before => ofSegments (first :: before.reverse)) ++
      (if first.isEmpty then [] else [⟨""⟩])

/-- The path above a path. -/
def parent? (p : Path) : Option Path :=
  p.parents.head?

/-- The last name of a path, if it ends in one that does not lead up. -/
def fileName? (p : Path) : Option (List Char) :=
  (p.segments.filter isName).getLast?.filter (· != ['.', '.'])

/-- Whether a path ends in the name of something, not in a dot or two that stand for a directory. -/
def endsInName (p : Path) : Bool :=
  (p.segments.filter (· != [])).getLast?.any fun segment =>
    segment != ['.'] && segment != ['.', '.']

/-- A name's stem and its extension, which is what follows the last dot. A dot at the beginning
opens no extension. -/
def splitName (name : List Char) : List Char × Option (List Char) :=
  match name.reverse.dropWhile (· != '.') with
  | _ :: c :: stem => ((c :: stem).reverse, some (name.reverse.takeWhile (· != '.')).reverse)
  | _ => (name, none)

/-- The last name of a path without its extension. -/
def stem? (p : Path) : Option String :=
  p.fileName?.map fun name => String.ofList (splitName name).1

/-- The extension of a path's last name. -/
def extension? (p : Path) : Option String :=
  p.fileName?.bind fun name => (splitName name).2.map String.ofList

/-- The path of a package: its parts between the dots one below the other, without the empty
ones. -/
def ofPackage (package : String) : Path :=
  ((Text.pieces (· == '.') package.toList).filter (· != [])).foldl
    (fun path part => path.join ⟨String.ofList part⟩) ⟨""⟩

end Path

end VersionCatalog
