import RuleTemplate.Command.Run

/-!
# The program

Reads the arguments, the variables and the files that a run may need, and shows the outcome of
`Command.program`.
-/

namespace RuleTemplate

/-- The bytes of a file, if it can be read. -/
def readBytes (name : Text) : IO (Option ByteArray) :=
  try
    return some (← IO.FS.readBinFile (String.ofList name))
  catch _ => return none

/-- The files of these names that can be read. -/
def readFiles (names : List Text) : IO Files := do
  let found ← names.filterMapM fun name => do
    return (← readBytes name).map fun bytes => (name, bytes)
  return fun name => List.lookup name found

/-- The name and the value in front of and behind the first equals sign. -/
def variableOf? (entry : Text) : Option (Text × Text) :=
  let name := entry.takeWhile (· ≠ '=')
  match entry.drop name.length with
  | [] => none
  | _ :: value => if name = [] then none else some (name, value)

/-- The variables of the process, as the system lists them; what is no text is passed over. -/
def readVariables : IO Variables := do
  let listed := ((← readBytes "/proc/self/environ").map fun bytes =>
    Text.splitAt (0 : UInt8) bytes.data.toList).getD []
  return listed.filterMap fun entry => (Text.ofBytes? ⟨entry.toArray⟩).bind variableOf?

/-- The paths of the files that a run may need. -/
def neededFiles (arguments : List Text) (mode : Text) : List Text :=
  let settings := Settings.variableFile :: Settings.filePaths Settings.commonFile
    ++ Settings.filePaths (Settings.modeFile mode)
  match Command.Options.read arguments with
  | .ok o => settings ++ o.event :: o.templateFile.toList
  | .error _ => settings

end RuleTemplate

open RuleTemplate in
/-- Shows the outcome of a run. The time that metrics tell is that of making the output. -/
def main (arguments : List String) : IO UInt32 := do
  let arguments := arguments.map String.toList
  let vars ← readVariables
  let mode := Settings.runMode (Settings.allVariables VariableFile.read vars
    (← readFiles [Settings.variableFile]))
  let files ← readFiles (neededFiles arguments mode)
  let start ← IO.monoNanosNow
  let outcome := Command.program arguments vars files default
  IO.print (String.ofList outcome.output)
  let stop ← IO.monoNanosNow
  let seconds := (Binary64.ofRatio? false (stop - start) 1000000000).getD default
  for l in (Command.program arguments vars files seconds).diagnostics do
    IO.eprintln (String.ofList l)
  return outcome.code.toUInt32
