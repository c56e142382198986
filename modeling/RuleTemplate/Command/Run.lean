import RuleTemplate.Command.Arguments
import RuleTemplate.Event.Reader
import RuleTemplate.Metrics
import RuleTemplate.Settings.Load

/-!
# Running the program

A run reads the event, and then either writes its envelope or renders the template. `run` gives what
is printed, or the first failure; `program` adds the reading of arguments and settings, and gives
what a process shows: its exit code and what it writes.
-/

namespace RuleTemplate.Command

/-- Why a run fails. -/
inductive Failure where
  | file (fault : FileFault)
  | event (fault : Event.Fault)
  | noTemplate
  | format (error : FormatError)
  | settings (fault : Settings.Fault)
deriving DecidableEq

/-- The wording of a failure. -/
def Failure.message : Failure → Text
  | .file fault => "I/O error: " ++ fault.message
  | .event (.json .ended) => "Invalid event: the text ends too early"
  | .event (.json .malformed) => "Invalid event: the text is no JSON"
  | .event (.event error) => "Invalid event: " ++ error.message
  | .noTemplate => "Validation error: either --template or --template-file is required"
  | .format error => "Render failed: " ++ error.message
  | .settings fault => "Configuration error: " ++ fault.message

/-- The event in a file. -/
def readEvent (files : Files) (name : Text) : Except Failure Event := do
  let t ← (files.text name).mapError .file
  (Event.read t).mapError .event

/-- The template that options name. -/
def readTemplate (files : Files) (o : Options) : Except Failure Text :=
  match o.template, o.templateFile with
  | some t, _ => .ok t
  | none, some name => (files.text name).mapError .file
  | none, none => .error .noTemplate

/-- The formatter of the program: without engine and without extensions. -/
def formatter (s : Settings) : Formatter := ⟨.below s.urls.baseUrl, .disabled, []⟩

/-- What a run gives: the text to be printed, and the rendering if there was one. -/
structure Product where
  output : Text
  rendering : Option Rendering

/-- Does what the options say. -/
def produce (o : Options) (s : Settings) (files : Files) : Except Failure Product := do
  let e ← readEvent files o.event
  if o.envelope then return ⟨e.envelope, none⟩
  let r := (formatter s).render e (← readTemplate files o)
  let output ← r.result.mapError .format
  return ⟨output, some r⟩

/-- The text that a run prints. -/
def run (o : Options) (s : Settings) (files : Files) : Except Failure Text :=
  (produce o s files).map (·.output)

/-- What a process shows. -/
structure Outcome where
  code : Nat
  output : Text
  diagnostics : List Text
deriving DecidableEq, Repr

/-- The name of the program with its version. -/
def versionText : Text := "rule-formatter 1.0.0"

/-- What the program tells of itself. -/
def helpText : List Text :=
  ["Render rule templates against events", "",
    "Usage: rule-formatter [OPTIONS] --event <EVENT>", "",
    "Options:",
    "      --event <EVENT>                  Event JSON file",
    "      --template <TEMPLATE>            Template text",
    "      --template-file <TEMPLATE_FILE>  File holding the template text",
    "      --envelope                       Print the event envelope instead of rendering a template",
    "      --metrics                        Dump Prometheus metrics to stderr when done",
    "  -h, --help                           Print help",
    "  -V, --version                        Print version"]

/-- A line with its end. -/
def line (t : Text) : Text := t ++ ['\n']

/-- What a process shows when its arguments are not followed. -/
def Outcome.ofUsage : UsageError → Outcome
  | .help => ⟨0, helpText.flatMap line, []⟩
  | .version => ⟨0, line versionText, []⟩
  | e => ⟨2, [], ["error: " ++ e.message]⟩

/-- What a process shows when it fails. -/
def Outcome.ofFailure (f : Failure) : Outcome := ⟨1, [], ["Error: " ++ f.message]⟩

/-- What a process shows when it is done; metrics are told if they are asked for. -/
def Outcome.ofProduct (o : Options) (seconds : Binary64) (p : Product) : Outcome :=
  let metrics := if o.metrics then p.rendering.map (Metrics.ofRendering seconds) else none
  ⟨0, line p.output, metrics.elim [] Metrics.lines⟩

/-- The program: what it shows for its arguments, variables and files, when rendering takes
`seconds`. -/
def program (arguments : List Text) (vars : Variables) (files : Files) (seconds : Binary64) :
    Outcome :=
  match Options.read arguments with
  | .error e => .ofUsage e
  | .ok o =>
    match (Settings.load vars files).mapError Failure.settings with
    | .error f => .ofFailure f
    | .ok s =>
      match produce o s files with
      | .error f => .ofFailure f
      | .ok p => .ofProduct o seconds p

end RuleTemplate.Command
