import RuleTemplate.Event.Encode

/-!
# Nodes

Paths lead through values of several kinds; a `Node` is any of them. A record is a value with named
parts, of which the case of names does not count.
-/

namespace RuleTemplate

/-- A value with parts, by the small letters of their names, and with a text if it has one. -/
structure Record (α : Type) where
  part? : Text → Option α
  text? : Option Text

/-- The part of a name. -/
def Record.field? {α : Type} (r : Record α) (name : Text) : Option α := r.part? (Text.lower name)

/-- A value on a path. -/
inductive Node where
  | null
  | text (value : Text)
  | json (value : Json.Sorted)
  | data (value : ContentData)
  | field (value : FieldData)
  | user (value : User)
  | record (value : Record Node)

/-- The text of a JSON value: that of a string as it is, all else in compact form. -/
def Json.text? : Json → Option Text
  | .null => none
  | .string t => some t
  | v => some v.print

namespace Node

/-- Whether there is a node but no value. -/
def isNull : Node → Bool
  | .null => true
  | .json v => v.isNull
  | _ => false

/-- The text that stands for a node in a template. -/
def text? : Node → Option Text
  | .null => none
  | .text t => some t
  | .json v => v.json.text?
  | .data d => some d.toJson.print
  | .field f => some f.toJson.print
  | .user u => some u.id
  | .record r => r.text?

end Node

end RuleTemplate
