import RuleTemplate.Node.Resolve
import RuleTemplate.Template.Builtin
import RuleTemplate.Template.Extension
import RuleTemplate.Template.Placeholder

/-!
# What stands behind a marker

`Formatter.answer` says what the text behind a marker means. It asks, in this order, the built-in
placeholders, the `span` hooks of the extensions, and, if the text begins with a placeholder by
path, the `path` hooks of the extensions and the event itself. The first that answers decides.
-/

namespace RuleTemplate

/-- What templates are rendered with. -/
structure Formatter where
  links : Addresses
  engine : Script.Engine
  extensions : List Extension

/-- How a placeholder was recognised, or that it was not. -/
inductive Strategy where
  | pattern | span | path | value | unmatched
deriving DecidableEq, Repr

/-- The name of a strategy. -/
def Strategy.name : Strategy → Text
  | .pattern => "pattern"
  | .span => "span"
  | .path => "path"
  | .value => "value"
  | .unmatched => "unmatched"

/-- What the text behind a marker means. -/
inductive Answer where
  /-- A built-in placeholder, and its value. -/
  | builtin (b : Builtin) (text : Option Text)
  /-- A text that an extension claims, and what it puts in place. -/
  | span (claim : SpanMatch)
  /-- An extension claims no text at all, so the marker stays as it is. -/
  | declined
  /-- A placeholder whose path an extension claims. -/
  | path (placeholder : Placeholder) (pending : Pending)
  /-- A placeholder whose path leads to a value of the event, or ends before some segments. -/
  | value (placeholder : Placeholder) (text : Option Text) (remaining : List Text)
  /-- Nothing, so the marker stays as it is. -/
  | unmatched
  /-- The template cannot be rendered. -/
  | failure (error : FormatError)

namespace Answer

/-- The value that comes in place of the placeholder, if there is one, and the number of bytes that
the placeholder has behind the marker. -/
def slot? : Answer → Option (Pending × Nat)
  | .builtin b text => some (.ready text, Text.byteSize b.name)
  | .span claim => some (.ready (some claim.replacement), claim.consumed)
  | .path placeholder pending => some (pending, placeholder.size)
  | .value placeholder text _ => some (.ready text, placeholder.size)
  | .declined | .unmatched | .failure _ => none

/-- The error, if there is one. -/
def failure? : Answer → Option FormatError
  | .failure error => some error
  | _ => none

/-- As what the marker is counted, if it is. -/
def strategy? : Answer → Option Strategy
  | .builtin .. => some .pattern
  | .span .. => some .span
  | .path .. => some .path
  | .value .. => some .value
  | .declined | .unmatched => some .unmatched
  | .failure _ => none

end Answer

namespace Formatter

/-- The answer to a claim by a `span` hook on the text behind the marker at `offset`. -/
def ofSpan (offset : Nat) (t : Text) (s : SpanMatch) : Answer :=
  if s.consumed = 0 then .declined
  else match Text.charsIn? s.consumed t with
    | none => .failure (.invalidSpan offset s.consumed)
    | some _ => .span s

/-- The answer of the first extension whose `span` hook claims the text behind the marker, or
fails. -/
def spanAnswer? (e : Event) (offset : Nat) (t : Text) : List Extension → Option Answer
  | [] => none
  | x :: extensions =>
    match x.span e t with
    | .error error => some (.failure error)
    | .ok (some s) => some (ofSpan offset t s)
    | .ok none => spanAnswer? e offset t extensions

/-- The answer for a placeholder by path: of the first extension whose `path` hook claims it, else
by the event. -/
def pathAnswer (f : Formatter) (e : Event) (p : Placeholder) : Answer :=
  match f.extensions.findSome? fun x => x.path e p.path with
  | some pending => .path p pending
  | none =>
    let (node, remaining) := (Node.record (.event e)).resolve p.path
    .value p (node.bind Node.text?) remaining

/-- What the text `t` behind the marker at `offset` means. -/
def answer (f : Formatter) (e : Event) (offset : Nat) (t : Text) : Answer :=
  match Builtin.find? t with
  | some b => .builtin b (b.value? f.links e)
  | none =>
    match spanAnswer? e offset t f.extensions with
    | some a => a
    | none =>
      match Placeholder.parse? t with
      | none => .unmatched
      | some p => pathAnswer f e p

end Formatter

end RuleTemplate
