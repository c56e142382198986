import RuleTemplate.Json.Sorted

/-!
# Content data

The data of a content item are fields by name. A field holds a JSON value for each partition, which
is a language or `iv`; a field may also be null.
-/

namespace RuleTemplate

/-- The values of one field, by partition. -/
abbrev FieldData := KeyMap Json.Sorted

/-- The fields of a content item, by name. -/
abbrev ContentData := KeyMap (Option FieldData)

/-- The field with a value for a partition, in place of one that it has. -/
def FieldData.withValue (f : FieldData) (part : Text) (value : Json.Sorted) : FieldData :=
  f.insert part value

/-- The JSON form of a field. -/
def FieldData.toJson (f : FieldData) : Json := .object (f.entries.map fun e => (e.1, e.2.json))

namespace ContentData

/-- The data with a field, in place of one of that name. -/
def withField (d : ContentData) (name : Text) (f : FieldData) : ContentData :=
  d.insert name (some f)

/-- The data with a field that is null. -/
def withNull (d : ContentData) (name : Text) : ContentData := d.insert name none

/-- The field of a name; there is none when it is null. -/
def field? (d : ContentData) (name : Text) : Option FieldData := (d.get? name).join

/-- The JSON form of the data of a content item. -/
def toJson (d : ContentData) : Json :=
  .object (d.entries.map fun e => (e.1, match e.2 with
    | some f => FieldData.toJson f
    | none => .null))

end ContentData

end RuleTemplate
