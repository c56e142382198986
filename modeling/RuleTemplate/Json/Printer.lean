import RuleTemplate.Json.Basic

/-!
# Writing JSON

The compact form: no blanks, members in the order of the value, and in strings an escape for the
quote, the backslash and the controls below U+0020, and for nothing else.

The keys of a map need not be texts. Numbers and truth values are written as texts in their places;
nothing else can be a name of an object.
-/

namespace RuleTemplate.Json

/-- A hexadecimal digit in lower case. -/
def hexDigit (n : Nat) : Char := Nat.digitChar (n % 16)

/-- One character of a string. -/
def printChar (c : Char) : Text :=
  if c = '"' then "\\\""
  else if c = '\\' then "\\\\"
  else if c = '\x08' then "\\b"
  else if c = '\t' then "\\t"
  else if c = '\n' then "\\n"
  else if c = '\x0c' then "\\f"
  else if c = '\r' then "\\r"
  else if c.toNat < 0x20 then "\\u00" ++ [hexDigit (c.toNat / 16), hexDigit c.toNat]
  else [c]

/-- A string between double quotes. -/
def printString (t : Text) : Text := '"' :: (t.flatMap printChar ++ ['"'])

/-- A number: integers by their digits, all else in the layout of data. -/
def Number.print : Number → Text
  | .integer i _ => Text.ofInt i
  | .real x => Layout.data.binary64 x

mutual

/-- The compact form of a value. -/
def print : Json → Text
  | .null => "null"
  | .bool true => "true"
  | .bool false => "false"
  | .number n => n.print
  | .string t => printString t
  | .list items => '[' :: printItems items
  | .object members => '\x7b' :: printMembers members

/-- The items of a list and its closing bracket. -/
def printItems : List Json → Text
  | [] => "]"
  | [v] => print v ++ "]"
  | v :: items => print v ++ ',' :: printItems items

/-- The members of an object and its closing brace. -/
def printMembers : List (Text × Json) → Text
  | [] => "\x7d"
  | [(k, v)] => printString k ++ ':' :: print v ++ "\x7d"
  | (k, v) :: members => printString k ++ ':' :: print v ++ ',' :: printMembers members

end

/-! ## Maps with free keys -/

/-- The name that a key is written as. -/
def keyName? : Json → Option Text
  | .string t => some t
  | .number n => some n.print
  | .bool true => some "true"
  | .bool false => some "false"
  | .null | .list _ | .object _ => none

/-- The object of a map, its entries in their order. -/
def ofEntries? (entries : List (Json × Json)) : Option Json :=
  (entries.mapM fun e => (keyName? e.1).map fun name => (name, e.2)).map .object

/-- What is wrong with a key that is no name. -/
def keyFault : Text := "key must be a string"

end RuleTemplate.Json
