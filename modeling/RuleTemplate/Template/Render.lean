import RuleTemplate.Event.Encode
import RuleTemplate.Template.Scan
import RuleTemplate.Template.Script

/-!
# Rendering

`Formatter.render` gives the result of a template for an event and the notes taken on the way, which
metrics and logs are made of. A blank template stays as it is, a script goes to the engine, and any
other template is scanned; then its values are waited for.

Values are also sent on as they are: `payload` is the text of a value.
-/

namespace RuleTemplate

/-- How a template is rendered. -/
inductive Mode where
  | empty | script | text
deriving DecidableEq, Repr

/-- The name of a mode. -/
def Mode.name : Mode → Text
  | .empty => "empty"
  | .script => "script"
  | .text => "text"

/-- What is worth telling of a rendering. -/
inductive Note where
  /-- The template is rendered in this mode. -/
  | mode (mode : Mode)
  /-- A script of so many bytes goes to the engine. -/
  | delegated (length : Nat)
  /-- A marker was looked at. -/
  | marker (offset : Nat) (answer : Answer)
  /-- So many values are waited for. -/
  | joined (count : Nat)
  /-- The rendering is over and its time was taken. -/
  | timed
  /-- There is no result. -/
  | failed (error : FormatError)

/-- The notes on a scan; without a failure there are values to be waited for, or none. -/
def Scan.notes (s : Scan) : List Note :=
  s.visited.map (fun v => .marker v.1 v.2)
    ++ (if s.failure.isSome then [] else [.joined s.pending.length])

/-- The result of a rendering, and the notes in order. -/
structure Rendering where
  result : Except FormatError Text
  notes : List Note

namespace Formatter

/-- The variables of a script: the event alone. -/
def context (e : Event) : Script.Context :=
  KeyMap.empty.insert Script.eventVariable e.toJson.toSorted

/-- The scan of a template. -/
def scan (f : Formatter) (e : Event) (t : Text) : Scan := Scan.run (f.answer e) t {}

/-- The result of a template that is neither blank nor a script. -/
def renderText (f : Formatter) (e : Event) (t : Text) : Rendering :=
  ⟨(f.scan e t).result, .mode .text :: (f.scan e t).notes⟩

/-- The result of a template. -/
def renderByMode (f : Formatter) (e : Event) (t : Text) : Rendering :=
  let trimmed := Text.trim t
  if trimmed = [] then ⟨.ok t, [.mode .empty]⟩
  else match Script.body? trimmed with
    | some body =>
      ⟨(f.engine (context e) body).mapError .script,
        [.mode .script, .delegated (Text.byteSize body)]⟩
    | none => f.renderText e t

/-- The notes at the end of a rendering. -/
def closing : Except FormatError Text → List Note
  | .ok _ => [.timed]
  | .error error => [.timed, .failed error]

/-- Renders a template for an event. -/
def render (f : Formatter) (e : Event) (t : Text) : Rendering :=
  let r := f.renderByMode e t
  ⟨r.result, r.notes ++ closing r.result⟩

/-- The rendered text. -/
def format (f : Formatter) (e : Event) (t : Text) : Except FormatError Text := (f.render e t).result

end Formatter

/-! ## Payloads -/

/-- The text in which a JSON value is sent. -/
def payload (v : Json) : Text := v.print

/-- The text in which a map is sent, its entries in their order; there is one when all its keys can
be names. -/
def payloadOfEntries (entries : List (Json × Json)) : Except FormatError Text :=
  match Json.ofEntries? entries with
  | some v => .ok (payload v)
  | none => .error (.serialization Json.keyFault)

end RuleTemplate
