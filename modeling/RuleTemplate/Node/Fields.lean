import RuleTemplate.Node.Basic

/-!
# Named parts of records

The parts of the records of the program are listed with their declared names. Names are compared
ignoring the case of ASCII letters. Of an event, the parts of its detail come before those of its
base. Moments are given to the second.
-/

namespace RuleTemplate

namespace Node

/-- The node of a moment. -/
def ofTimestamp (t : Timestamp) : Node := .text t.textToSecond

/-- The node of an integer. -/
def ofInt64 (i : Int64) : Node := .text (Text.ofInt i.toInt)

/-- The node of a user who may be unknown. -/
def ofUser? : Option User → Node
  | none => .null
  | some u => .user u

/-- The node of a text that may be missing. -/
def ofText? : Option Text → Node
  | none => .null
  | some t => .text t

/-- The node of content data that may be missing. -/
def ofData? : Option ContentData → Node
  | none => .null
  | some d => .data d

end Node

/-- The record of some parts, listed with their names. -/
def Record.ofFields (fields : List (Text × Node)) (text? : Option Text) : Record Node :=
  ⟨fun name => (fields.find? fun f => Text.lower f.1 == name).map (·.2), text?⟩

/-- The parts of an identity. -/
def NamedId.fields (n : NamedId) : List (Text × Node) :=
  [("id", .text n.id.text), ("name", .text n.name)]

/-- The record of an identity. -/
def Record.namedId (n : NamedId) : Record Node := .ofFields n.fields (some n.text)

/-- The node of an identity. -/
def Node.ofNamedId (n : NamedId) : Node := .record (.namedId n)

/-- The parts of a user. -/
def User.fields (u : User) : List (Text × Node) := [("id", .text u.id), ("email", .text u.email)]

/-- The record of a user. -/
def Record.user (u : User) : Record Node := .ofFields u.fields (some u.id)

namespace Event

/-- The parts of the base. -/
def Base.fields (b : Base) : List (Text × Node) :=
  [("appId", .ofNamedId b.appId), ("name", .text b.name), ("timestamp", .ofTimestamp b.timestamp),
    ("version", .ofInt64 b.version), ("actor", .text b.actor)]

/-- The parts of a detail; an action is also named `type`. -/
def Detail.fields : Detail → List (Text × Node)
  | .usageExceeded e =>
    [("callsCurrent", .ofInt64 e.callsCurrent), ("callsLimit", .ofInt64 e.callsLimit)]
  | .manual user => [("user", .ofUser? user)]
  | .schema e =>
    [("user", .ofUser? e.user), ("schemaId", .ofNamedId e.schemaId), ("type", .text e.action.name),
      ("action", .text e.action.name)]
  | .content e =>
    [("user", .ofUser? e.user), ("schemaId", .ofNamedId e.schemaId), ("id", .text e.id.text),
      ("type", .text e.action.name), ("action", .text e.action.name), ("data", .data e.data),
      ("dataOld", .ofData? e.dataOld), ("status", .text e.status),
      ("created", .ofTimestamp e.created), ("lastModified", .ofTimestamp e.lastModified),
      ("createdBy", .text e.createdBy), ("lastModifiedBy", .text e.lastModifiedBy)]
  | .asset e =>
    [("user", .ofUser? e.user), ("id", .text e.id.text), ("type", .text e.action.name),
      ("action", .text e.action.name), ("fileName", .text e.fileName),
      ("mimeType", .text e.mimeType), ("fileSize", .ofInt64 e.fileSize),
      ("fileVersion", .ofInt64 e.fileVersion), ("assetType", .text e.assetType.name)]
  | .comment e =>
    [("user", .ofUser? e.user), ("text", .text e.text), ("url", .ofText? e.url),
      ("mentionedUser", .user e.mentionedUser)]

/-- The parts of an event. -/
def fields (e : Event) : List (Text × Node) := e.detail.fields ++ e.base.fields

end Event

/-- The record of a base. -/
def Record.base (b : Event.Base) : Record Node := .ofFields b.fields none

/-- The record of an event. -/
def Record.event (e : Event) : Record Node := .ofFields e.fields none

end RuleTemplate
