import RuleTemplate.Template.Render
import RuleTemplate.Text.Quoted

/-!
# Logs

The messages that the notes on a rendering give. Each has a level and named details.
-/

namespace RuleTemplate

/-- How grave a message is. -/
inductive Level where
  | debug | warn
deriving DecidableEq, Repr

/-- The name of a level. -/
def Level.name : Level → Text
  | .debug => "DEBUG"
  | .warn => "WARN"

/-- A message of the log. -/
structure LogEntry where
  level : Level
  message : Text
  details : List (Text × Text)
deriving DecidableEq, Repr

/-- The message on an answer at a marker. -/
def Answer.log? (offset : Nat) : Answer → Option LogEntry
  | .unmatched => some ⟨.debug, "No placeholder after marker", [("offset", Text.ofNat offset)]⟩
  | .value placeholder _ remaining =>
    if remaining = [] then none
    else some ⟨.debug, "Placeholder path not found in event",
      [("kind", placeholder.kind), ("remaining", Text.quotedList remaining)]⟩
  | _ => none

/-- The message of a note. -/
def Note.log? : Note → Option LogEntry
  | .delegated length =>
    some ⟨.debug, "Delegating template to script engine", [("script_len", Text.ofNat length)]⟩
  | .marker offset answer => answer.log? offset
  | .joined count => some ⟨.debug, "Resolving placeholders", [("placeholders", Text.ofNat count)]⟩
  | .failed error => some ⟨.warn, "Template rendering failed", [("error", error.message)]⟩
  | .mode _ | .timed => none

/-- The messages of a rendering, in order. -/
def Rendering.log (r : Rendering) : List LogEntry := r.notes.filterMap Note.log?

end RuleTemplate
