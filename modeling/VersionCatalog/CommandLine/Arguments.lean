import VersionCatalog.Path

namespace VersionCatalog.CommandLine

inductive Flag where
  | verbose
  | help
  | version
  deriving DecidableEq, Repr

inductive Setting where
  | package
  | outputDirectory
  | projectVersion
  deriving DecidableEq, Repr

/-- What a letter or a long name stands for. -/
inductive Meaning where
  | flag (flag : Flag)
  | setting (setting : Setting)

/-- The letters and the long names that a command knows. -/
structure Vocabulary where
  letters : List (Char × Meaning)
  names : List (String × Meaning)

/-- One step of reading arguments. -/
inductive Mark where
  | flag (flag : Flag)
  | setting (setting : Setting) (value : String)
  | operand (text : String)
  | invalid
  deriving DecidableEq, Repr

/-- Whether an argument is made of flags or options, and so is neither an operand nor a value. A
single hyphen is not. -/
def isDashed (argument : String) : Bool :=
  match argument.toList with
  | '-' :: _ :: _ => true
  | _ => false

/-- The marks of the letters after a hyphen. The text after the letter of an option is its value,
with or without an equals sign; an option that comes last takes the next argument, and is given
back. -/
def letterMarks (vocabulary : Vocabulary) : List Char → List Mark × Option Setting
  | [] => ([], none)
  | letter :: letters =>
    match vocabulary.letters.lookup letter with
    | none => ([.invalid], none)
    | some (.flag flag) =>
      let (marks, open?) := letterMarks vocabulary letters
      (.flag flag :: marks, open?)
    | some (.setting setting) =>
      match letters with
      | [] => ([], some setting)
      | '=' :: value => ([.setting setting (String.ofList value)], none)
      | value => ([.setting setting (String.ofList value)], none)

/-- The marks of a long name, with the value after an equals sign if there is one. -/
def nameMarks (vocabulary : Vocabulary) (text : List Char) : List Mark × Option Setting :=
  let (name, rest) := text.span (· != '=')
  match vocabulary.names.lookup (String.ofList name), rest with
  | some (.flag flag), [] => ([.flag flag], none)
  | some (.setting setting), [] => ([], some setting)
  | some (.setting setting), _ :: value => ([.setting setting (String.ofList value)], none)
  | _, _ => ([.invalid], none)

/-- The marks of arguments. Everything after two hyphens is an operand. -/
def marks (vocabulary : Vocabulary) : List String → List Mark
  | [] => []
  | argument :: others =>
    if argument = "--" then others.map .operand
    else if !isDashed argument then .operand argument :: marks vocabulary others
    else
      let (found, open?) :=
        match argument.toList with
        | '-' :: '-' :: name => nameMarks vocabulary name
        | _ :: letters => letterMarks vocabulary letters
        | [] => ([.invalid], none)
      match open? with
      | none => found ++ marks vocabulary others
      | some setting =>
        match others with
        | value :: others =>
          if isDashed value then found ++ [.invalid]
          else found ++ .setting setting value :: marks vocabulary others
        | [] => found ++ [.invalid]

/-- What a command line asks for. -/
inductive Request where
  | generate (catalogs : List Path) (package : Option String) (outputDirectory : Option Path)
      (projectVersion : Option String)
  | inspect (catalog : Path)
  | help
  | version
  | misuse
  deriving DecidableEq, Repr

def commonFlags : Vocabulary where
  letters := [('v', .flag .verbose), ('h', .flag .help)]
  names := [("verbose", .flag .verbose), ("help", .flag .help)]

/-- What may stand before the name of a command. -/
def leadingVocabulary : Vocabulary where
  letters := ('V', .flag .version) :: commonFlags.letters
  names := ("version", .flag .version) :: commonFlags.names

/-- What may stand after `generate`. -/
def generateVocabulary : Vocabulary where
  letters := ('p', .setting .package) :: ('o', .setting .outputDirectory) :: commonFlags.letters
  names := ("package", .setting .package) :: ("output-dir", .setting .outputDirectory) ::
    ("project-version", .setting .projectVersion) :: commonFlags.names

/-- What has been read of the arguments of a command. -/
structure Draft where
  verbose : Bool := false
  operands : List Path := []
  package : Option String := none
  outputDirectory : Option Path := none
  projectVersion : Option String := none

/-- The draft with one more flag or option. Nothing may be said twice, and no path is empty. -/
def Draft.add? (draft : Draft) : Mark → Option Draft
  | .flag .verbose => if draft.verbose then none else some { draft with verbose := true }
  | .flag _ => none
  | .setting .package value =>
    if draft.package.isSome then none else some { draft with package := value }
  | .setting .outputDirectory value =>
    if draft.outputDirectory.isSome || value = "" then none
    else some { draft with outputDirectory := some ⟨value⟩ }
  | .setting .projectVersion value =>
    if draft.projectVersion.isSome then none else some { draft with projectVersion := value }
  | .operand text =>
    if text = "" then none else some { draft with operands := draft.operands ++ [⟨text⟩] }
  | .invalid => none

/-- Reads the marks of a command with at most `limit` operands, if there is a limit, and finishes
with what `finish` makes of them. -/
def readMarks (limit : Option Nat) (finish : Draft → Request) : Draft → List Mark → Request
  | draft, [] => finish draft
  | _, .flag .help :: _ => .help
  | _, .flag .version :: _ => .version
  | draft, mark :: marks =>
    match draft.add? mark with
    | none => .misuse
    | some draft =>
      if limit.any (· < draft.operands.length) then .misuse
      else readMarks limit finish draft marks

def generateRequest (arguments : List String) : Request :=
  readMarks none
    (fun draft =>
      .generate draft.operands draft.package draft.outputDirectory draft.projectVersion)
    {} (marks generateVocabulary arguments)

/-- The request of `inspect`, which has one operand. -/
def inspectRequest (arguments : List String) : Request :=
  readMarks (some 1)
    (fun draft =>
      match draft.operands with
      | [catalog] => .inspect catalog
      | _ => .misuse)
    {} (marks commonFlags arguments)

def helpRequest : List String → Request
  | [] => .help
  | [command] =>
    if command = "generate" ∨ command = "inspect" ∨ command = "help" then .help else .misuse
  | _ => .misuse

def commandRequest (command : String) (arguments : List String) : Request :=
  if command = "generate" then generateRequest arguments
  else if command = "inspect" then inspectRequest arguments
  else if command = "help" then helpRequest arguments
  else .misuse

/-- The request of a command line: flags, the name of a command, and the arguments of the command.
No command follows two hyphens. -/
def Request.ofArguments (arguments : List String) : Request :=
  let (leading, others) := arguments.span isDashed
  let finish (_ : Draft) : Request :=
    match others with
    | command :: rest => if leading.contains "--" then .misuse else commandRequest command rest
    | [] => .misuse
  readMarks (some 0) finish {} (marks leadingVocabulary leading)

end VersionCatalog.CommandLine
