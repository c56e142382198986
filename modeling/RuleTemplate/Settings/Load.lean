import RuleTemplate.Json.Reader
import RuleTemplate.Json.Sorted
import RuleTemplate.Settings.VariableFile

/-!
# Loading settings

The settings of the program come from these sources, of which each overrides those before it: the
defaults, the file `config/default.json`, the file of the mode in which the program runs, the file
`.env`, and the variables of the environment. The mode is the value of `RUN_MODE`, or
`development`.
-/

namespace RuleTemplate.Settings

/-- Why settings cannot be loaded. -/
inductive Fault where
  /-- A file that is there holds no JSON object. -/
  | file (path : Text)
  /-- The sources together do not make settings. -/
  | value
deriving DecidableEq, Repr

/-- The wording of a fault. -/
def Fault.message : Fault → Text
  | .file path => "cannot read " ++ path
  | .value => "invalid value"

/-- The defaults as a source. -/
def defaults : Source :=
  [("urls.base_url", .string standard.urls.baseUrl),
    ("logging.level", .string standard.logging.level),
    ("logging.format", .string standard.logging.format.name)]

/-- The source that a text is. -/
def source? (t : Text) : Option Source :=
  match Json.read t with
  | .ok v => match v.sorted with
    | .object members => some members
    | _ => none
  | .error _ => none

/-! ## Files -/

/-- The ending of the paths of files that can be sources. -/
def ending : Text := ".json"

/-- The part of a path behind its last slash. -/
def baseName (path : Text) : Text := (path.reverse.takeWhile (· ≠ '/')).reverse

/-- Whether the last step of a path has the ending behind something else. -/
def hasEnding (path : Text) : Bool :=
  let base := baseName path
  ending.length < base.length && base.drop (base.length - ending.length) = ending

/-- A path with the ending behind its last step that leads somewhere; there is none when that step
leads up. -/
def withEnding? (path : Text) : Option Text :=
  match (Text.splitAt '/' path).reverse.dropWhile fun step => step = [] ∨ step = ['.'] with
  | [] | ['.', '.'] :: _ => none
  | steps => some (Text.joinWith ['/'] steps.reverse ++ ending)

/-- The paths under which a file that is named without ending may stand. -/
def filePaths (name : Text) : List Text := name :: (withEnding? name).toList

/-- The path of the file for a name: the name itself when there is such a file, which is no source
unless it has the ending; else the name with the ending. -/
def filePath? (files : Files) (name : Text) : Option Text :=
  if (files name).isSome then (if hasEnding name then some name else none) else withEnding? name

/-- The source in a file; a file that is not there or holds no text assigns nothing. -/
def ofFile (files : Files) (name : Text) : Except Fault Source :=
  match (filePath? files name).map fun path => (path, files.text path) with
  | some (path, .ok t) => match source? t with
    | some s => .ok s
    | none => .error (.file path)
  | _ => .ok []

/-- The file that sets variables. -/
def variableFile : Text := ".env"

/-- The entries of the file `.env`; there are none when there is no such file. -/
def fileEntries (read : VariableReader) (files : Files) : List VariableFile.Entry :=
  (files variableFile).elim [] read

/-- The variables that are set, by the environment or else by the file `.env`. -/
def allVariables (read : VariableReader) (vars : Variables) (files : Files) : Variables :=
  VariableFile.withEntries vars (fileEntries read files)

/-- The name of the file that is a source in every mode. -/
def commonFile : Text := "config/default"

/-- The name of the file for a mode. -/
def modeFile (mode : Text) : Text := "config/" ++ mode

/-- The mode in which the program runs. -/
def runMode (vars : Variables) : Text := (vars.lookup ("RUN_MODE" : Text)).getD "development"

/-- The sources in the order in which they are laid over one another. -/
def sources (read : VariableReader) (vars : Variables) (files : Files) :
    Except Fault (List Source) := do
  let vars := allVariables read vars files
  let common ← ofFile files commonFile
  let special ← ofFile files (modeFile (runMode vars))
  return [defaults, common, special, ofVariables vars]

/-- Loads the settings, where `read` finds the entries of the file `.env`. -/
def loadWith (read : VariableReader) (vars : Variables) (files : Files) :
    Except Fault Settings := do
  let tree := (← sources read vars files).foldl overlay (.object [])
  match ofTree? tree with
  | some s => return s
  | none => throw .value

/-- Loads the settings. -/
def load (vars : Variables) (files : Files) : Except Fault Settings :=
  loadWith VariableFile.read vars files

end RuleTemplate.Settings
