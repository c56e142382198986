import RuleTemplate.Calendar.Reader
import RuleTemplate.Json.Printer
import RuleTemplate.Text.Quoted
import RuleTemplate.Uuid

/-!
# Why a JSON value cannot be decoded

A `DecodeError` names the first problem of a value: what was found (`Found`) and what was expected
in its place (`Expected`), or which member or name is wrong. `DecodeError.message` words it.
-/

namespace RuleTemplate

/-- What was found, as far as it is told. -/
inductive Found where
  | null
  | bool (value : Bool)
  | number (value : Json.Number)
  | string (value : Text)
  | sequence
  | map
deriving DecidableEq

namespace Found

/-- What a JSON value is told as. -/
def ofJson : Json → Found
  | .null => .null
  | .bool b => .bool b
  | .number n => .number n
  | .string t => .string t
  | .list _ => .sequence
  | .object _ => .map

/-- The wording of what was found. -/
def text : Found → Text
  | .null => "null"
  | .bool true => "boolean \x60true\x60"
  | .bool false => "boolean \x60false\x60"
  | .number (.integer i h) => "integer \x60" ++ (Json.Number.integer i h).print ++ "\x60"
  | .number (.real x) => "floating point \x60" ++ (Json.Number.real x).print ++ "\x60"
  | .string t => "string " ++ Text.quoted t
  | .sequence => "sequence"
  | .map => "map"

end Found

/-- What was expected. -/
inductive Expected where
  | string
  | int64
  | map
  | sequence
  | uuid
  | timestamp
  /-- The name of a choice, or an object that names it. -/
  | choice
  /-- The name of a choice alone. -/
  | choiceName
  /-- Nothing beside the name of a choice. -/
  | unit
  /-- An object that names exactly one choice. -/
  | singleMember
  /-- An object with a member that says which of several records it is. -/
  | tagged (name : Text)
  /-- A record. -/
  | record (name : Text)
  /-- The values of all members of a record. -/
  | values (name : Text) (count : Nat)
  /-- A list of that many items. -/
  | items (count : Nat)
  /-- A list with fewer items. -/
  | fewerItems
deriving DecidableEq

namespace Expected

/-- A count of elements. -/
def elements (count : Nat) : Text :=
  Text.ofNat count ++ (if count = 1 then " element" else " elements" : Text)

/-- The wording of what was expected. -/
def text : Expected → Text
  | .string => "a string"
  | .int64 => "i64"
  | .map => "a map"
  | .sequence => "a sequence"
  | .uuid => "a formatted UUID string"
  | .timestamp => "an RFC 3339 formatted date and time string"
  | .choice => "string or map"
  | .choiceName => "variant identifier"
  | .unit => "unit"
  | .singleMember => "map with a single key"
  | .tagged name => "internally tagged enum " ++ name
  | .record name => "struct " ++ name
  | .values name count => "struct " ++ name ++ (" with " : Text) ++ elements count
  | .items count => elements count ++ (" in sequence" : Text)
  | .fewerItems => "fewer elements in array"

end Expected

/-- Why a JSON value cannot be decoded. -/
inductive DecodeError where
  /-- A value of the wrong kind. -/
  | invalidType (found : Found) (expected : Expected)
  /-- A value of the right kind that does not fit. -/
  | invalidValue (found : Found) (expected : Expected)
  /-- A wrong number of items. -/
  | invalidLength (length : Nat) (expected : Expected)
  /-- A name that is not among the known ones. -/
  | unknownVariant (name : Text) (known : List Text)
  /-- A member that is needed and not there. -/
  | missingField (name : Text)
  /-- A known member that comes twice. -/
  | duplicateField (name : Text)
  /-- A text that is no identifier. -/
  | uuid (fault : Uuid.Fault)
  /-- A text that is no moment. -/
  | timestamp (fault : Timestamp.Fault)
deriving DecidableEq

namespace DecodeError

/-- A name in a message. -/
def named (name : Text) : Text := '\x60' :: (name ++ ['\x60'])

/-- The wording of a choice among known names. -/
def oneOf : List Text → Text
  | [] => "there are no variants"
  | [a] => "expected " ++ named a
  | [a, b] => "expected " ++ named a ++ (" or " : Text) ++ named b
  | names => "expected one of " ++ Text.joinWith ", " (names.map named)

/-- The wording of an error. -/
def message : DecodeError → Text
  | .invalidType found expected =>
    "invalid type: " ++ found.text ++ (", expected " : Text) ++ expected.text
  | .invalidValue found expected =>
    "invalid value: " ++ found.text ++ (", expected " : Text) ++ expected.text
  | .invalidLength length expected =>
    "invalid length " ++ Text.ofNat length ++ (", expected " : Text) ++ expected.text
  | .unknownVariant name known =>
    "unknown variant " ++ named name ++ (", " : Text) ++ oneOf known
  | .missingField name => "missing field " ++ named name
  | .duplicateField name => "duplicate field " ++ named name
  | .uuid fault => "UUID parsing failed: " ++ fault.message
  | .timestamp fault => fault.message

end DecodeError

end RuleTemplate
