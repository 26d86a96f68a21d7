import VersionCatalog.KeyedList
import VersionCatalog.Storage

namespace VersionCatalog

/-- The names that lead from the root to a place. -/
abbrev Location := List String

/-- What stands at a place. -/
inductive Entry where
  | directory
  | file (content : ByteArray)

/-- A file tree with the directory that relative paths start from. The root is always there; every
other entry stands in a directory. -/
structure FileTree where
  entries : List (Location × Entry) := []
  current : Location := []

/-- Why an operation on a file tree fails. -/
inductive Fault where
  | missing
  | notDirectory
  | isDirectory
  | alreadyThere
  | nameTooLong
  | nulInPath
  | notText
  deriving DecidableEq, Repr

/-- The words for a fault. The number that a system adds to them, as in `(os error 2)`, is left
out. -/
def Fault.message : Fault → String
  | .missing => "No such file or directory"
  | .notDirectory => "Not a directory"
  | .isDirectory => "Is a directory"
  | .alreadyThere => "File exists"
  | .nameTooLong => "File name too long"
  | .nulInPath => "file name contained an unexpected NUL byte"
  | .notText => "stream did not contain valid UTF-8"

namespace FileTree

/-- The number of bytes that a name may have. -/
def nameLimit : Nat := 255

/-- The number of bytes that no path reaches. -/
def pathLimit : Nat := 4096

def lookup? (tree : FileTree) (location : Location) : Option Entry :=
  if location.isEmpty then some .directory else tree.entries.lookup location

def put (tree : FileTree) (location : Location) (entry : Entry) : FileTree :=
  { tree with entries := KeyedList.put location entry tree.entries }

/-- Putting an entry changes what stands at its location and nowhere else. -/
theorem lookup?_put (tree : FileTree) (location other : Location) (entry : Entry)
    (h : location ≠ []) :
    (tree.put location entry).lookup? other =
      if other = location then some entry else tree.lookup? other := by
  unfold lookup? put
  by_cases ho : other = []
  · subst ho
    simp [Ne.symm h]
  · simp [ho, KeyedList.lookup_put]

/-- The location that names lead to from a directory. The last one need not be there. -/
def walk (tree : FileTree) : Location → List String → Except Fault Location
  | here, [] => .ok here
  | here, name :: names =>
    match tree.lookup? here with
    | none => .error .missing
    | some (.file _) => .error .notDirectory
    | some .directory =>
      if name = "" ∨ name = "." then tree.walk here names
      else if name = ".." then tree.walk here.dropLast names
      else if nameLimit < name.utf8ByteSize then .error .nameTooLong
      else tree.walk (here ++ [name]) names

/-- The location that the pieces of a path lead to. -/
def locateBy (tree : FileTree) (path : Path) (segments : List (List Char)) :
    Except Fault Location :=
  if path.text = "" then .error .missing
  else if path.text.toList.contains '\x00' then .error .nulInPath
  else if pathLimit ≤ path.text.utf8ByteSize then .error .nameTooLong
  else tree.walk (if path.isAbsolute then [] else tree.current) (segments.map String.ofList)

def locate (tree : FileTree) (path : Path) : Except Fault Location :=
  tree.locateBy path path.segments

def find? (tree : FileTree) (path : Path) : Option Entry :=
  match tree.locate path with
  | .ok location => tree.lookup? location
  | .error _ => none

def isFile (tree : FileTree) (path : Path) : Bool :=
  match tree.find? path with
  | some (.file _) => true
  | _ => false

def isDirectory (tree : FileTree) (path : Path) : Bool :=
  match tree.find? path with
  | some .directory => true
  | _ => false

/-- The tree with a new directory. Slashes at the end of its path mean nothing. -/
def createDirectory (tree : FileTree) (path : Path) : Except Fault FileTree :=
  match tree.locateBy path (path.segments.reverse.dropWhile (·.isEmpty)).reverse with
  | .error fault => .error fault
  | .ok location =>
    match tree.lookup? location with
    | some _ => .error .alreadyThere
    | none => .ok (tree.put location .directory)

/-- Makes the first of the paths a directory, if need be after those of the others that are missing
as well. The empty path needs nothing. -/
def createAll (tree : FileTree) : List Path → Except Fault Unit × FileTree
  | [] => (.error .missing, tree)
  | path :: above =>
    if path.text = "" then (.ok (), tree)
    else
      match tree.createDirectory path with
      | .ok tree => (.ok (), tree)
      | .error .missing =>
        match tree.createAll above with
        | (.error fault, tree) => (.error fault, tree)
        | (.ok (), tree) =>
          match tree.createDirectory path with
          | .ok tree => (.ok (), tree)
          | .error fault => (if tree.isDirectory path then .ok () else .error fault, tree)
      | .error fault => (if tree.isDirectory path then .ok () else .error fault, tree)

/-- Makes a directory and those above it that are missing. Directories made on the way to a failure
stay. -/
def createDirectories (tree : FileTree) (path : Path) : Except Fault Unit × FileTree :=
  tree.createAll (path :: path.parents)

def read (tree : FileTree) (path : Path) : Except Fault ByteArray :=
  match tree.locate path with
  | .error fault => .error fault
  | .ok location =>
    match tree.lookup? location with
    | none => .error .missing
    | some .directory => .error .isDirectory
    | some (.file content) => .ok content

def readText (tree : FileTree) (path : Path) : Except Fault String :=
  match tree.read path with
  | .error fault => .error fault
  | .ok content =>
    match String.fromUTF8? content with
    | some text => .ok text
    | none => .error .notText

def write (tree : FileTree) (path : Path) (content : ByteArray) : Except Fault FileTree :=
  match tree.locate path with
  | .error fault => .error fault
  | .ok location =>
    match tree.lookup? location with
    | some .directory => .error .isDirectory
    | _ => .ok (tree.put location (.file content))

/-- Whether an entry goes when what stands at a location is removed: it stands below, or it stands
there and is removed by name. -/
def goesWith (location : Location) (byName : Bool) (other : Location) : Bool :=
  location.isPrefixOf other && (byName || location.length < other.length)

/-- The tree without what a path leads to and what stands below it. A path that ends in dots names
no entry of a directory, and the directory it leads to is emptied and stays. -/
def remove (tree : FileTree) (path : Path) : FileTree :=
  match tree.locate path with
  | .error _ => tree
  | .ok location =>
    { tree with entries :=
        tree.entries.filter fun entry => !goesWith location path.endsInName entry.1 }

/-- The locations below a directory with what stands there. -/
def below (tree : FileTree) (directory : Location) : List (Location × Entry) :=
  tree.entries.filterMap fun entry =>
    if directory.isPrefixOf entry.1 ∧ directory.length < entry.1.length then
      some (entry.1.drop directory.length, entry.2)
    else none

instance : Storage (StateM FileTree) where
  isFile path := return (← get).isFile path
  doesExist path := return ((← get).find? path).isSome
  createDirectories path := do
    let (result, tree) := (← get).createDirectories path
    set tree
    return result.mapError Fault.message
  readText path := return ((← get).readText path).mapError Fault.message
  writeText path text := do
    match (← get).write path text.toUTF8 with
    | .ok tree => set tree; return .ok ()
    | .error fault => return .error fault.message

end FileTree

end VersionCatalog
