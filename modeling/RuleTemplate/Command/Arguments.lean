import RuleTemplate.Text.Basic

/-!
# Arguments

The program takes options, which need a value, and flags, which take none. The value of an option is
behind an equals sign or is the next argument, unless that looks like an option itself. There are no
other arguments.

An option whose value is the next argument is judged when the next option or flag is met, or at the
end (`State.settle`).
-/

namespace RuleTemplate.Command

/-- The options. -/
inductive Opt where
  | event | template | templateFile
deriving DecidableEq, Repr

/-- The flags. -/
inductive Flag where
  | envelope | metrics | help | version
deriving DecidableEq, Repr

/-- Why arguments are not followed. -/
inductive UsageError where
  /-- Two arguments that exclude each other, or one that comes twice. -/
  | conflict
  | missingRequired
  | unknown
  | invalidValue
  /-- A value for a flag. -/
  | tooManyValues
  /-- Help is asked for. -/
  | help
  /-- The version is asked for. -/
  | version
deriving DecidableEq, Repr

/-- The wording of an error. -/
def UsageError.message : UsageError → Text
  | .conflict => "an argument cannot be used together with another"
  | .missingRequired => "a required argument was not provided"
  | .unknown => "an unexpected argument was found"
  | .invalidValue => "a value is required"
  | .tooManyValues => "an unexpected value was found"
  | .help => "help"
  | .version => "version"

namespace Opt

/-- All options. -/
def all : List Opt := [event, template, templateFile]

/-- The name of an option, which stands behind two hyphens. -/
def name : Opt → Text
  | event => "event"
  | template => "template"
  | templateFile => "template-file"

/-- Whether the value names a file and must not be empty. -/
def isFile : Opt → Bool
  | event | templateFile => true
  | template => false

end Opt

namespace Flag

/-- All flags. -/
def all : List Flag := [envelope, metrics, help, version]

/-- The name of a flag, which stands behind two hyphens. -/
def name : Flag → Text
  | envelope => "envelope"
  | metrics => "metrics"
  | help => "help"
  | version => "version"

end Flag

/-- What the arguments say. -/
structure Options where
  event : Text
  template : Option Text
  templateFile : Option Text
  envelope : Bool
  metrics : Bool
deriving DecidableEq, Repr

/-- What the arguments so far say. -/
structure State where
  values : List (Opt × Text)
  flags : List Flag
  /-- An option that is to be judged, with its value if that has come. -/
  pending : Option (Opt × Option Text)
  /-- Whether there was a pair of hyphens, after which no option can follow. -/
  closed : Bool

namespace State

/-- Nothing said yet. -/
def start : State := ⟨[], [], none, false⟩

/-- The value of an option. -/
def value? (s : State) (o : Opt) : Option Text := s.values.lookup o

/-- Takes an option with its value, if that has come. -/
def takeOption (s : State) (o : Opt) : Option Text → Except UsageError State
  | none => .error .invalidValue
  | some v =>
    if (s.value? o).isSome then .error .conflict
    else if o.isFile ∧ v = [] then .error .invalidValue
    else .ok { s with values := (o, v) :: s.values }

/-- Judges the option that is to be judged. -/
def settle (s : State) : Except UsageError State :=
  match s.pending with
  | none => .ok s
  | some (o, v) => takeOption { s with pending := none } o v

/-- Takes a flag. -/
def takeFlag (s : State) (f : Flag) : Except UsageError State :=
  match f with
  | .help => .error .help
  | .version => .error .version
  | .envelope | .metrics =>
    if f ∈ s.flags then .error .conflict else .ok { s with flags := f :: s.flags }

/-- Takes an argument that begins with two hyphens, given by its name and what is behind the equals
sign. -/
def long (s : State) (name : Text) (attached : Option Text) : Except UsageError State :=
  match Opt.all.find? (·.name = name), Flag.all.find? (·.name = name), attached with
  | some o, _, some v => do takeOption (← s.settle) o (some v)
  | some o, _, none => do return { (← s.settle) with pending := some (o, none) }
  | none, some _, some _ => .error .tooManyValues
  | none, some f, none => do takeFlag (← s.settle) f
  | none, none, _ => .error .unknown

/-- Takes an argument that begins with one hyphen and then has a letter. -/
def short (s : State) (letter : Char) : Except UsageError State :=
  if letter = 'h' then do takeFlag (← s.settle) .help
  else if letter = 'V' then do takeFlag (← s.settle) .version
  else .error .unknown

/-- Takes any other argument. -/
def plain (s : State) (t : Text) : Except UsageError State :=
  match s.pending with
  | some (o, none) => .ok { s with pending := some (o, some t) }
  | _ => .error .unknown

/-- Takes an argument. -/
def step (s : State) (t : Text) : Except UsageError State :=
  if s.closed then .error .unknown
  else match t with
    | ['-', '-'] => .ok { s with closed := true }
    | '-' :: '-' :: t =>
      let name := t.takeWhile (· ≠ '=')
      match t.drop name.length with
      | [] => s.long name none
      | _ :: v => s.long name (some v)
    | '-' :: letter :: _ => s.short letter
    | t => s.plain t

/-- What all arguments say. -/
def finish (s : State) : Except UsageError Options := do
  let s ← s.settle
  if (s.value? .template).isSome ∧ (s.value? .templateFile).isSome then throw .conflict
  match s.value? .event with
  | none => throw .missingRequired
  | some event =>
    return ⟨event, s.value? .template, s.value? .templateFile, s.flags.contains .envelope,
      s.flags.contains .metrics⟩

end State

/-- Reads the arguments. -/
def Options.read (arguments : List Text) : Except UsageError Options := do
  (← arguments.foldlM State.step .start).finish

end RuleTemplate.Command
