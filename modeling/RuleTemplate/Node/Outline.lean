import RuleTemplate.Json.Outline
import RuleTemplate.Node.Basic

/-!
# Outlines of nodes

The form in which a node is shown to a developer.
-/

namespace RuleTemplate

/-- Entries between braces, each key quoted. -/
def outlineEntries {α : Type} (outline : α → Text) (entries : List (Text × α)) : Text :=
  '\x7b' :: (Text.joinWith ", " (entries.map fun e => Text.quoted e.1 ++ ": " ++ outline e.2)
    ++ ['\x7d'])

/-- A name with its argument. -/
def outlineCall (name argument : Text) : Text := name ++ '(' :: argument ++ [')']

/-- The outline of a value that may be missing. -/
def outlineOption {α : Type} (outline : α → Text) : Option α → Text
  | none => "None"
  | some a => outlineCall "Some" (outline a)

/-- The outline of a field. -/
def FieldData.outline (f : FieldData) : Text :=
  outlineCall "FieldData" (outlineEntries (fun v => v.json.outline) f.entries)

/-- The outline of the data of a content item. -/
def ContentData.outline (d : ContentData) : Text :=
  outlineCall "ContentData" (outlineEntries (outlineOption FieldData.outline) d.entries)

/-- The outline of a node. -/
def Node.outline : Node → Text
  | .null => "Null"
  | .text t => outlineCall "Text" (Text.quoted t)
  | .json v => outlineCall "Json" v.json.outline
  | .data d => outlineCall "Data" d.outline
  | .field f => outlineCall "Field" f.outline
  | .user u => outlineCall "User" (Text.quoted u.id)
  | .record r => outlineCall "Record" (outlineOption Text.quoted r.text?)

end RuleTemplate
