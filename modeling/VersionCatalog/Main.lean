import Std.Time.Format
import VersionCatalog.CommandLine

namespace VersionCatalog

/-- The result of an action, or the words of the exception that ended it. -/
def attempt {α : Type} (action : IO α) : IO (Except String α) := do
  try return .ok (← action)
  catch error => return .error (toString error)

/-- What kind of file a path leads to, if it leads anywhere. -/
def fileType? (path : Path) : IO (Option IO.FS.FileType) := do
  if path.text.isEmpty then return none
  let here ← IO.currentDir
  match ← attempt (here / path.text).metadata with
  | .ok data => return some data.type
  | .error _ => return none

instance : Storage IO where
  isFile path := return (← fileType? path) matches some .file
  doesExist path := return (← fileType? path).isSome
  createDirectories path := attempt do
    let here ← IO.currentDir
    IO.FS.createDirAll (here / path.text)
  readText path := do
    match ← attempt (IO.FS.readBinFile path.text) with
    | .error detail => return .error detail
    | .ok content =>
      match String.fromUTF8? content with
      | some text => return .ok text
      | none => return .error "stream did not contain valid UTF-8"
  writeText path text := attempt (IO.FS.writeFile path.text text)

/-- Prints how a run ended and gives its exit code. -/
def report (result : CommandLine.Result) : IO UInt32 := do
  for failure in result.failures do
    IO.eprintln (CommandLine.failureLine failure)
  for line in result.output do
    IO.println line
  if let some error := result.error then
    IO.eprintln ("Error: " ++ error.message)
    if let some help := error.help? then
      IO.eprintln ("  help: " ++ help)
  if result.code = 2 then
    for line in CommandLine.usage do
      IO.eprintln line
  return UInt32.ofNat result.code

/-- Runs the program in the current directory of the machine and on its date. -/
def runHere (arguments : List String) : IO UInt32 := do
  let here ← IO.currentDir
  let today ← Std.Time.PlainDateTime.now
  report (← CommandLine.run ⟨here.toString⟩ today.date.year arguments)

end VersionCatalog

/-- The program. -/
def main (arguments : List String) : IO UInt32 :=
  VersionCatalog.runHere arguments
