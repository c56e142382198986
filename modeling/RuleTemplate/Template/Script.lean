import RuleTemplate.Json.Pointer
import RuleTemplate.Json.Printer
import RuleTemplate.KeyMap

/-!
# Scripts

A template that reads `Script(…)` as a whole is not searched for placeholders. What stands between
the parentheses is given to an engine, together with the variables that it may use.
-/

namespace RuleTemplate.Script

/-- The word before the opening parenthesis and that parenthesis. -/
def opening : Text := "Script("

/-- What stands between the parentheses, if the text is a script; the case of the word does not
count. -/
def body? (t : Text) : Option Text :=
  let behind := t.drop opening.length
  if Text.sameLetters (t.take opening.length) opening ∧ behind.getLast? = some ')' then
    some behind.dropLast
  else none

/-- Why a script has no result. -/
inductive Fault where
  /-- There is no engine. -/
  | disabled
  /-- The engine gave up. -/
  | evaluation (reason : Text)
deriving DecidableEq, Repr

/-- The wording of a fault. -/
def Fault.message : Fault → Text
  | .disabled => "Script templates are disabled"
  | .evaluation reason => "Script evaluation failed: " ++ reason

/-- The variables of a script. -/
abbrev Context := KeyMap Json.Sorted

/-- The variable that holds the event. -/
def eventVariable : Text := "event"

/-- What evaluates scripts. -/
abbrev Engine := Context → Text → Except Fault Text

namespace Engine

/-- Evaluates nothing. -/
def disabled : Engine := fun _ _ => .error .disabled

/-- Gives up on every script. -/
def failing (reason : Text) : Engine := fun _ _ => .error (.evaluation reason)

/-- The event among the variables. -/
def eventOf (context : Context) : Json.Sorted := (context.get? eventVariable).getD default

/-- Looks up a pointer in the event and gives the value there behind the script. -/
def pointer (p : Text) : Engine := fun context script =>
  match (eventOf context).at? p with
  | some v => .ok (script ++ " => " ++ v.json.print)
  | none => .error (.evaluation ("no " ++ p))

/-- Gives the number of variables, the script and the event, between bars. -/
def echo : Engine := fun context script =>
  .ok (Text.ofNat context.size ++ '|' :: script ++ '|' :: (eventOf context).json.print)

end Engine

end RuleTemplate.Script
