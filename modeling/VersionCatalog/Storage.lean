import VersionCatalog.Path

namespace VersionCatalog

/-- A monad with files. Operations that fail give the reason in words. -/
class Storage (m : Type → Type) where
  /-- Whether a path leads to a file. -/
  isFile : Path → m Bool
  /-- Whether a path leads to a file or a directory. -/
  doesExist : Path → m Bool
  /-- Makes a directory and those above it that are missing. -/
  createDirectories : Path → m (Except String Unit)
  /-- The text of a file. -/
  readText : Path → m (Except String String)
  /-- Writes a file in a directory, in the place of the file that is there. -/
  writeText : Path → String → m (Except String Unit)

namespace Storage

variable {m : Type → Type} [Monad m] [Storage m]

/-- Makes a directory unless its path leads somewhere already. -/
def ensureDirectory (path : Path) : m (Except String Unit) := do
  if ← doesExist path then return .ok ()
  else createDirectories path

/-- The first of the directories that holds a file of the given name. -/
def findHolding? (name : String) : List Path → m (Option Path)
  | [] => return none
  | directory :: others => do
    if ← isFile (directory.join ⟨name⟩) then return some directory
    else findHolding? name others

/-- The nearest directory, at a path or above it, that holds a file of the given name. -/
def findAbove? (start : Path) (name : String) : m (Option Path) :=
  findHolding? name (start :: start.parents)

end Storage

end VersionCatalog
