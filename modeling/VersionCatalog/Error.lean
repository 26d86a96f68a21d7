import VersionCatalog.Path

namespace VersionCatalog

/-- The name of the file with a project's settings. -/
def settingsFileName : String := "Povercat.toml"

/-- Why the text of a file gives nothing: it cannot be read, it is not what it should be, or there
is another reason, already in words. -/
inductive Cause where
  | unreadable (subject detail : String)
  | malformed (subject : Option String) (detail : String)
  | stated (reason : String)
  deriving DecidableEq, Repr

/-- The reasons for which an operation fails. -/
inductive Error where
  | storage (detail : String)
  | catalogNotFound (path : Path)
  | catalog (path : Path) (cause : Cause)
  | settings (cause : Cause)
  | other (reason : String)
  deriving DecidableEq, Repr

namespace Cause

def message : Cause → String
  | .unreadable subject detail => "Failed to read " ++ subject ++ ": " ++ detail
  | .malformed (some subject) detail => "Failed to parse " ++ subject ++ ": " ++ detail
  | .malformed none detail => detail
  | .stated reason => reason

end Cause

namespace Error

def message : Error → String
  | .storage detail => "I/O error: " ++ detail
  | .catalogNotFound path => "Version catalog file not found: " ++ path.text
  | .catalog path cause => "Invalid version catalog " ++ path.text ++ ": " ++ cause.message
  | .settings cause => "Configuration error: " ++ cause.message
  | .other reason => reason

def help? : Error → Option String
  | .catalogNotFound _ => some
    "Check the \x60catalogs\x60 list in Povercat.toml or the paths given on the command line"
  | .catalog _ _ => some "Version catalogs must be valid TOML"
  | .settings _ => some "Check your Povercat.toml for syntax errors"
  | _ => none

end Error

end VersionCatalog
