import RuleTemplate.Decode.Error
import RuleTemplate.Json.Sorted

/-!
# Decoding JSON values

A decoder turns a JSON value into a value of the domain or says what is wrong with it first. This
module decodes the values that are no records: texts, integers, identifiers, moments, choices, lists
and maps.
-/

namespace RuleTemplate

/-- Where a value stands. The members of an event are gathered before they are decoded, any other
document is decoded as it is; the two differ in how much they take for nothing, and in how they tell
of items too many. -/
inductive Scope where
  | event
  | document
deriving DecidableEq, Repr

/-- A way to decode a JSON value. -/
abbrev Decoder (α : Type) := Scope → Json → Except DecodeError α

namespace Decoder

/-- The error for a value of the wrong kind. -/
def wrongType {α : Type} (v : Json) (expected : Expected) : Except DecodeError α :=
  .error (.invalidType (.ofJson v) expected)

/-- A text. -/
def text : Decoder Text
  | _, .string t => .ok t
  | _, v => wrongType v .string

/-- An integer of 64 bits. -/
def int64 : Decoder Int64
  | _, .number (.integer i h) =>
    if i < 0x8000000000000000 then .ok (Int64.ofInt i)
    else .error (.invalidValue (.number (.integer i h)) .int64)
  | _, v => wrongType v .int64

/-- An identifier. -/
def uuid : Decoder Uuid
  | _, .string t => (Uuid.read t).mapError .uuid
  | _, v => wrongType v .uuid

/-- A moment. -/
def timestamp : Decoder Timestamp
  | _, .string t => (Timestamp.read t).mapError .timestamp
  | _, v => wrongType v .timestamp

/-- Any value, its members sorted. -/
def any : Decoder Json.Sorted
  | _, v => .ok v.toSorted

/-- A value that may be `null`. -/
def nullable {α : Type} (decode : Decoder α) : Decoder (Option α)
  | _, .null => .ok none
  | scope, v => some <$> decode scope v

/-- A list of values. -/
def list {α : Type} (decode : Decoder α) : Decoder (List α)
  | scope, .list items => items.mapM (decode scope)
  | _, v => wrongType v .sequence

/-- A map of values, in which the last member of a name counts. -/
def map {α : Type} (decode : Decoder α) : Decoder (KeyMap α)
  | scope, .object members =>
    KeyMap.ofList <$> members.mapM fun m => do return (m.1, ← decode scope m.2)
  | _, v => wrongType v .map

/-! ## Choices -/

/-- The value among `all` that has the given name. -/
def named {α : Type} (all : List α) (name : α → Text) (t : Text) : Except DecodeError α :=
  match all.find? (name · = t) with
  | some a => .ok a
  | none => .error (.unknownVariant t (all.map name))

/-- Nothing beside the name of a choice. -/
def unit : Decoder Unit
  | _, .null => .ok ()
  | .event, .object [] => .ok ()
  | _, v => wrongType v .unit

/-- A choice among `all`: its name, or an object whose one member has that name and holds
nothing. -/
def choice {α : Type} (all : List α) (name : α → Text) : Decoder α
  | _, .string t => named all name t
  | scope, .object [(t, v)] => do
    let a ← named all name t
    unit scope v
    return a
  | _, .object members => .error (.invalidValue (.ofJson (.object members)) .singleMember)
  | _, v => wrongType v .choice

end Decoder

end RuleTemplate
