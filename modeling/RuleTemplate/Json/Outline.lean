import RuleTemplate.Json.Printer
import RuleTemplate.Text.Quoted

/-!
# Outlines of JSON values

The form in which a value is shown to a developer: each part under the name of its kind.
-/

namespace RuleTemplate.Json

mutual

/-- The outline of a value. -/
def outline : Json → Text
  | .null => "Null"
  | .bool true => "Bool(true)"
  | .bool false => "Bool(false)"
  | .number n => "Number(" ++ n.print ++ ")"
  | .string t => "String(" ++ Text.quoted t ++ ")"
  | .list items => "Array [" ++ outlineItems items
  | .object members => "Object \x7b" ++ outlineMembers members

/-- The outlines of items and the closing bracket. -/
def outlineItems : List Json → Text
  | [] => "]"
  | [v] => outline v ++ "]"
  | v :: items => outline v ++ ", " ++ outlineItems items

/-- The outlines of members and the closing brace. -/
def outlineMembers : List (Text × Json) → Text
  | [] => "\x7d"
  | [(k, v)] => Text.quoted k ++ ": " ++ outline v ++ "\x7d"
  | (k, v) :: members => Text.quoted k ++ ": " ++ outline v ++ ", " ++ outlineMembers members

end

end RuleTemplate.Json
