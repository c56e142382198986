import RuleTemplate.Event.Decode
import RuleTemplate.Json.Reader

/-!
# Reading events

The text of an event is read from the left, and the first problem met decides: whether the text is
no JSON, or whether it is JSON but no event. That a text is no event can be said before its end in
two places: where a wrong kind stands, and where the value of the document is complete. Behind an
event there may be blanks.
-/

namespace RuleTemplate.Event

/-- Why a text is no event. -/
inductive Fault where
  /-- It is no JSON document. -/
  | json (fault : Json.Fault)
  /-- It begins with a JSON document that is no event. -/
  | event (error : DecodeError)
deriving DecidableEq

/-- The complaint about a value that stands where the kind of the event has to stand. -/
def Kind.verdict : Json.Phase → Except DecodeError Unit
  | .done v => (Kind.decode v).map fun _ => ()
  | .firstItem => Decoder.wrongType (.list []) .choiceName
  | .firstName => Decoder.wrongType (.object []) .choiceName
  | _ => .ok ()

/-- The complaint about an event of which that much is read. -/
def verdict : Json.Reader → Except DecodeError Unit
  | ⟨[], .done v⟩ => (decode v).map fun _ => ()
  | ⟨[], .colon members name⟩ =>
    if name = tag ∧ members.any (·.1 = tag) then .error (.duplicateField tag) else .ok ()
  | ⟨[.object _ name], phase⟩ => if name = tag then Kind.verdict phase else .ok ()
  | ⟨[.list []], phase⟩ => Kind.verdict phase
  | _ => .ok ()

/-- Goes on with a state of reading, unless it is clear that there is no event. -/
def proceed (r : Except Json.Fault Json.Reader) : Except Fault Json.Reader :=
  match r with
  | .error fault => .error (.json fault)
  | .ok r => match verdict r with
    | .error error => .error (.event error)
    | .ok () => .ok r

/-- One character. -/
def step (r : Json.Reader) (c : Char) : Except Fault Json.Reader := do
  let r ← proceed (r.settle c)
  proceed (r.advance Json.nestingLimit c)

/-- Reads an event. -/
def read (t : Text) : Except Fault Event := do
  let r ← t.foldlM step Json.Reader.start
  let r ← proceed r.close
  match r.finish with
  | .error fault => .error (.json fault)
  | .ok v => (decode v).mapError .event

end RuleTemplate.Event
