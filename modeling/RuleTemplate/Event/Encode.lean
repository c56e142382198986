import RuleTemplate.Event.Basic
import RuleTemplate.Json.Printer

/-!
# The JSON form of events

An event is an object: its kind under `type`, then the members of the base, then those of the
detail. An envelope wraps an event under its name and with its time.
-/

namespace RuleTemplate

/-- The JSON form of a value that may be missing. -/
def Json.ofOption {α : Type} (toJson : α → Json) : Option α → Json
  | none => .null
  | some a => toJson a

/-- Puts a member in front of others, or leaves it out when there is no value. -/
def Json.consOption {α : Type} (name : Text) (toJson : α → Json) (value : Option α)
    (members : Json.Members) : Json.Members :=
  match value with
  | none => members
  | some a => (name, toJson a) :: members

/-- The JSON form of an identity. -/
def NamedId.toJson (n : NamedId) : Json :=
  .object [("id", .string n.id.text), ("name", .string n.name)]

/-- The JSON form of a claim. -/
def Claim.toJson (c : Claim) : Json :=
  .object [("type", .string c.kind), ("value", .string c.value)]

/-- The JSON form of a user. -/
def User.toJson (u : User) : Json :=
  .object [("id", .string u.id), ("email", .string u.email),
    ("claims", .list (u.claims.map Claim.toJson))]

/-- The JSON form of a moment. -/
def Timestamp.toJson (t : Timestamp) : Json := .string t.text

namespace Event

/-- The members of the base. -/
def Base.members (b : Base) : Json.Members :=
  [("appId", b.appId.toJson), ("name", .string b.name), ("timestamp", b.timestamp.toJson),
    ("version", .ofInt64 b.version), ("actor", .string b.actor)]

/-- The members of a detail. -/
def Detail.members : Detail → Json.Members
  | .usageExceeded e =>
    [("callsCurrent", .ofInt64 e.callsCurrent), ("callsLimit", .ofInt64 e.callsLimit)]
  | .manual user => [("user", .ofOption User.toJson user)]
  | .schema e =>
    [("user", .ofOption User.toJson e.user), ("schemaId", e.schemaId.toJson),
      ("action", .string e.action.name)]
  | .content e =>
    ("user", .ofOption User.toJson e.user) :: ("schemaId", e.schemaId.toJson)
      :: ("id", .string e.id.text) :: ("action", .string e.action.name)
      :: ("data", e.data.toJson) :: Json.consOption "dataOld" ContentData.toJson e.dataOld
        [("status", .string e.status), ("created", e.created.toJson),
          ("lastModified", e.lastModified.toJson), ("createdBy", .string e.createdBy),
          ("lastModifiedBy", .string e.lastModifiedBy)]
  | .asset e =>
    [("user", .ofOption User.toJson e.user), ("id", .string e.id.text),
      ("action", .string e.action.name), ("fileName", .string e.fileName),
      ("mimeType", .string e.mimeType), ("fileSize", .ofInt64 e.fileSize),
      ("fileVersion", .ofInt64 e.fileVersion), ("assetType", .string e.assetType.name)]
  | .comment e =>
    ("user", .ofOption User.toJson e.user) :: ("text", .string e.text)
      :: Json.consOption "url" .string e.url [("mentionedUser", e.mentionedUser.toJson)]

/-- The members of an event. -/
def members (e : Event) : Json.Members :=
  ("type", .string e.kind.name) :: (e.base.members ++ e.detail.members)

/-- The JSON form of an event. -/
def toJson (e : Event) : Json := .object e.members

/-- The text of an event. -/
def payload (e : Event) : Text := e.toJson.print

/-- An event under its name and with its time, as JSON. -/
def envelopeJson (e : Event) : Json :=
  .object [("type", .string e.base.name), ("payload", e.toJson),
    ("timestamp", e.base.timestamp.toJson)]

/-- The text of an event under its name and with its time. -/
def envelope (e : Event) : Text := e.envelopeJson.print

end Event

end RuleTemplate
